import EmbeddedPython.Environment.Basic
import EmbeddedPython.Proofs.Handle.Applying

/-
  The places where modules are looked for

  The interpreter keeps them in a list, and an environment appends its own to it,
  one after the other. As long as programs have left a list in its place, this
  always succeeds: the list then has what it had before, followed by the texts
  that were appended, in their order.
-/

namespace EmbeddedPython

namespace Memory

/-- Whether the places where modules are looked for are the items of a list in a cell. -/
structure Searches (m : Memory) (id : Nat) (items : List Ref) : Prop where
  current : m.currentSearchPath = some (.cell id)
  holds : m.Holds (.cell id) .list (.list items)
  bare : (m.object (.cell id)).attributes = none

/-- Whether references are to texts. -/
def Spell (m : Memory) (refs : List Ref) (texts : List String) : Prop :=
  List.Forall₂ (fun r s => m.Holds r .str (.text (.ofString s))) refs texts

variable {m n : Memory} {id : Nat} {items refs : List Ref} {texts : List String}

/-- A module of the system that has a place to look in is an object that has been made. -/
theorem has_of_currentSearchPath {s r : Ref} (sys : m.modules.lookup "sys" = some s)
    (current : m.currentSearchPath = some r) : m.Has s := by
  by_contra absent
  rw [currentSearchPath, sys] at current
  simp [object_of_not_has absent, Static.object] at current

/-- What the module of the system has is not changed by objects that are made. -/
theorem Grows.currentSearchPath (h : m.Grows n) {r : Ref} (current : m.currentSearchPath = some r) :
    n.currentSearchPath = some r := by
  obtain ⟨more, modules, others⟩ := h.modules
  have unregistered : more.lookup "sys" = none := by
    refine List.lookup_eq_none_iff.mpr fun x hx => ?_
    simpa using (others x hx).symm
  cases sys : m.modules.lookup "sys" with
  | none =>
    rw [Memory.currentSearchPath, sys] at current
    rw [Memory.currentSearchPath, modules, List.lookup_append, sys]
    simpa [unregistered, h.searchPath] using current
  | some s =>
    have made := has_of_currentSearchPath sys current
    rw [Memory.currentSearchPath, sys] at current
    rw [Memory.currentSearchPath, modules, List.lookup_append, sys]
    simpa [h.object made] using current

theorem Spell.adds (h : m.Spell refs texts) (mn : m.Adds n) : n.Spell refs texts :=
  h.imp fun _ _ holds => holds.adds nofun mn

/-- Texts stay what they are when a list is filled. -/
theorem Spell.refills (h : m.Spell refs texts) (list : m.Holds (.cell id) .list (.list items))
    (refills : Refills id m n) : n.Spell refs texts :=
  h.imp fun _ _ holds => holds.refills nofun list (by decide) refills

namespace Searches

theorem grows (h : m.Searches id items) (mn : m.Grows n) : n.Searches id items := by
  refine ⟨mn.currentSearchPath h.current, h.holds.adds nofun mn.toAdds, ?_⟩
  rw [mn.object (h.holds.has nofun)]
  exact h.bare

theorem append (h : m.Searches id items) (r : Ref) :
    (m.setValue (.cell id) (.list (items ++ [r]))).Searches id (items ++ [r]) := by
  have filled := Refills.setValue m id (.list (items ++ [r]))
  have kept : ((m.setValue (.cell id) (.list (items ++ [r]))).object (.cell id)).attributes =
      (m.object (.cell id)).attributes := by
    rcases m.object_set_self (.cell id)
      { m.object (.cell id) with value := .list (items ++ [r]) } with set | cells
    · rw [setValue, set]
    · rw [setValue, object_congr cells]
  have modules : (m.setValue (.cell id) (.list (items ++ [r]))).modules = m.modules := rfl
  have place : (m.setValue (.cell id) (.list (items ++ [r]))).searchPath = m.searchPath := rfl
  refine ⟨?_, h.holds.setValue (by simp), kept.trans h.bare⟩
  have current := h.current
  cases sys : m.modules.lookup "sys" with
  | none =>
    rw [currentSearchPath, sys] at current
    rw [currentSearchPath, modules, place, sys]
    exact current
  | some s =>
    have made := has_of_currentSearchPath sys current
    rw [currentSearchPath, sys] at current
    -- the list has no attributes, so it is not itself the module of the system
    have other : s ≠ .cell id := by
      rintro rfl
      simp [h.bare] at current
    rw [currentSearchPath, modules, place, sys]
    simpa [filled.object made other] using current

end Searches

end Memory

/-! ## Appending -/

namespace Eval

variable {m : Memory}

/-- Appending to a list puts the item behind the others. -/
theorem call_append (mach : Machine) {f : Ref} {id : Nat} {items : List Ref}
    (bound : m.valueOf f = .nativeMethod .list "append" (.cell id))
    (list : m.valueOf (.cell id) = .list items) (item : Ref) :
    (callObject mach f [item] []).run m =
      (.ok Ref.none, m.setValue (.cell id) (.list (items ++ [item]))) := by
  rw [callObject_native bound]
  refine callNative_named mach rfl ?_
  simp only [namedMethod]
  rw [run_valueOf_bind, list]
  have set : (setValue (.cell id) (.list (items ++ [item]))).run m =
      (.ok (), m.setValue (.cell id) (.list (items ++ [item]))) := by
    rw [setValue, run_update, Memory.assign, list]
    rfl
  simp only [listMethod, oneArgument, pure_bind]
  rw [run_bind_ok set]
  rfl

end Eval

namespace Op

variable {m : Memory} {id : Nat} {items : List Ref}

/-- The list of the places where modules are looked for is handed out. -/
theorem searchPathList_returns (searches : m.Searches id items) :
    Returns searchPathList m (Handle.adopt (.cell id)) m := by
  intro t h alive hm
  have read : (do pure (← Op.memory).currentSearchPath : Op (Option Ref)).perform t h =
      (.ok (some (.cell id)), h) := by
    show (Except.ok h.memory.currentSearchPath, h) = _
    rw [hm, searches.current]
  have same : searchPathList = (do pure (← Op.memory).currentSearchPath) >>= borrowed := by
    simp only [searchPathList, bind_assoc, pure_bind]
  rw [same, perform_bind, read]
  have lent : Returns (borrowed (some (.cell id))) m (Handle.adopt (.cell id)) m :=
    (Returns.passing _ m).bind ((Returns.hold _ m).bind (.pure _ m))
  exact lent t h alive hm

/-- One place is appended behind the others. -/
theorem appendOne_returns (searches : m.Searches id items) {r : Ref} :
    ∃ n,
      Returns (do (← (Handle.adopt (.cell id)).callMethod "append" [Handle.adopt r]).drop) m () n ∧
      n.Searches id (items ++ [r]) ∧ Memory.Refills id m n ∧ n.modules = m.modules := by
  have list := searches.holds
  have unclassed : m.class? (.cell id) = none := Memory.class?_of_value (by rw [list.value]; nofun)
  have own : ((m.object (.cell id)).attributes.getD []).lookup "append" = none := by
    rw [searches.bare]
    rfl
  have read : (Eval.getAttr Machine.top (.cell id) "append").run m =
      (Eval.make .nativeFunction (.nativeMethod .list "append" (.cell id))).run m :=
    Eval.getAttr_native Machine.top list.cls unclassed own (by decide) (by decide) rfl rfl
  let bound : Object := ⟨Ref.ofBuiltin .nativeFunction, .nativeMethod .list "append" (.cell id),
    if Builtin.nativeFunction.hasAttributes then some [] else none⟩
  have made : (Eval.make .nativeFunction (.nativeMethod .list "append" (.cell id))).run m =
    (.ok (m.alloc bound).1, (m.alloc bound).2) := rfl
  have grows := Memory.Grows.alloc m bound
  have searches' := searches.grows grows
  have call : (Machine.top.call (m.alloc bound).1 [r] []).run (m.alloc bound).2 = _ :=
    Eval.call_append (machine 999) (congrArg Object.value (m.object_alloc_new bound))
      searches'.holds.value r
  refine ⟨_, (Handle.callMethod_one_returns rfl rfl rfl (read.trans made) call).bind
    (Handle.drop_returns _ _), searches'.append r, ?_, rfl⟩
  exact (Memory.Refills.of_adds grows.toAdds).trans (.setValue _ id _)

/-- All places are appended, in their order. -/
theorem appendPath_returns (paths : List String) (searches : m.Searches id items) :
    ∃ n added, Returns (appendPath (Handle.adopt (.cell id)) paths) m () n ∧
      n.Searches id (items ++ added) ∧ n.Spell added paths ∧ Memory.Refills id m n ∧
      n.modules = m.modules := by
  induction paths generalizing m items with
  | nil =>
    exact ⟨m, [], .pure () m, by rwa [List.append_nil], .nil, .of_adds (.of_cells rfl rfl), rfl⟩
  | cons path rest ih =>
    obtain ⟨r, i, made, grows, unregistered, text⟩ := Eval.newText_grows (.ofString path) m
    have entry : Returns (HostValue.text path).toHandle m (Handle.adopt r) i := by
      rw [HostValue.toHandle]
      exact .guarded (.request [] made)
    have searches₁ := searches.grows grows
    obtain ⟨j, appended, searches', refills, same⟩ := appendOne_returns (r := r) searches₁
    obtain ⟨n, added, others, searches'', spell, refills', same'⟩ := ih searches'
    -- the text that was appended first is not changed by what is appended later
    have texts : n.Spell [r] [path] :=
      Memory.Spell.refills (Memory.Spell.refills (.cons text .nil) searches₁.holds refills)
        searches'.holds refills'
    refine ⟨n, r :: added, entry.bind ((Handle.spend_returns appended).bind others), ?_, ?_, ?_, ?_⟩
    · rwa [List.append_assoc] at searches''
    · exact .cons (List.forall₂_cons.mp texts).1 spell
    · exact (Memory.Refills.of_adds grows.toAdds).trans (refills.trans refills')
    · rw [same', same, unregistered]

end Op

end EmbeddedPython
