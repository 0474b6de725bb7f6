import EmbeddedPython.Proofs.Interpreter.Method

/-
  What objects hold

  An object of a built-in class holds a value. It holds it for as long as the
  object is left alone: objects that are made do not touch it, nor does a change
  to another object.
-/

namespace EmbeddedPython

/-- Whether a reference is to no cell before a given one. -/
def Ref.Above (low : Nat) : Ref → Prop
  | static _ => True
  | cell id => low ≤ id

namespace Memory

/-- Whether an object is an instance of a built-in class and has a value. -/
structure Holds (m : Memory) (r : Ref) (c : Builtin) (v : Value) : Prop where
  cls : m.classOf r = Ref.ofBuiltin c
  value : m.valueOf r = v

/-- Whether all cells from a given one on are as they were. -/
def Agrees (low : Nat) (m n : Memory) : Prop :=
  ∀ {r : Ref}, r.Above low → m.Has r → n.object r = m.object r

variable {m n : Memory}

theorem Holds.has {r : Ref} {c : Builtin} {v : Value} (h : m.Holds r c v) (hv : v ≠ .plain) :
    m.Has r :=
  has_of_value (h.value ▸ hv)

theorem Holds.agrees {low : Nat} {r : Ref} {c : Builtin} {v : Value} (h : m.Holds r c v)
    (hv : v ≠ .plain) (above : r.Above low) (agrees : Agrees low m n) : n.Holds r c v := by
  have same := agrees above (h.has hv)
  refine ⟨?_, ?_⟩
  · rw [classOf, same]
    exact h.cls
  · rw [valueOf, same]
    exact h.value

theorem Agrees.mono {low high : Nat} (le : low ≤ high) (h : Agrees low m n) : Agrees high m n := by
  intro r above has
  refine h ?_ has
  cases r with
  | static s => trivial
  | cell id => exact Nat.le_trans le above

section

variable {r : Ref} {c : Builtin} {w : Value}

theorem Holds.isKind (h : m.Holds r c w) (d : Builtin) :
    m.isKind r d = (c.lineage.map Ref.ofBuiltin).contains (Ref.ofBuiltin d) := by
  rw [Memory.isKind, isInstance, h.cls]
  rfl

theorem Holds.special (h : m.Holds r c w) (name : String) :
    m.special r name = (c.definer? name).map Found.native :=
  special_builtin h.cls name

theorem Holds.ne_none (h : m.Holds r c w) (other : c ≠ .none) : r ≠ Ref.none := by
  rintro rfl
  exact other (Static.builtin.inj (Ref.static.inj h.cls)).symm

end

/-- Whether objects are made and nothing else happens to objects but to one. -/
structure Refills (id : Nat) (m n : Memory) : Prop where
  has : ∀ {r : Ref}, m.Has r → n.Has r
  object : ∀ {r : Ref}, m.Has r → r ≠ .cell id → n.object r = m.object r
  customized : n.customized = m.customized

namespace Refills

variable {k : Memory} {id : Nat}

theorem of_adds (h : m.Adds n) : Refills id m n := ⟨h.has, fun hr _ => h.object hr, h.customized⟩

theorem trans (mn : Refills id m n) (nk : Refills id n k) : Refills id m k where
  has hr := nk.has (mn.has hr)
  object hr other := (nk.object (mn.has hr) other).trans (mn.object hr other)
  customized := nk.customized.trans mn.customized

theorem setValue (m : Memory) (id : Nat) (v : Value) : Refills id m (m.setValue (.cell id) v) where
  has hr := hr.of_size_le (Nat.le_of_eq (size_set m _ _).symm)
  object := fun _ other => object_set_of_ne m other _
  customized := customized_set m _ _

theorem agrees (h : Refills id m n) : Agrees (id + 1) m n := by
  intro r above has
  refine h.object has ?_
  rintro rfl
  exact absurd above (Nat.not_succ_le_self id)

/-- Filling what has just been made is no change to what was there before. -/
theorem adds (made : m.Adds n) (new : ¬ m.Has (.cell id)) (h : Refills id n k) : m.Adds k where
  has hr := h.has (made.has hr)
  object hr := by
    refine (h.object (made.has hr) ?_).trans (made.object hr)
    rintro rfl
    exact new hr
  customized := h.customized.trans made.customized

end Refills

theorem Holds.setValue {c : Builtin} {id : Nat} {v w : Value}
    (h : m.Holds (.cell id) c v) (hv : v ≠ .plain) :
    (m.setValue (.cell id) w).Holds (.cell id) c w := by
  have has : id < m.cells.size := h.has hv
  have filled : (m.setValue (.cell id) w).object (.cell id) =
      { m.object (.cell id) with value := w } := by
    simp [Memory.setValue, set, object, Array.getD, has]
  refine ⟨?_, ?_⟩
  · rw [classOf, filled]
    exact h.cls
  · rw [valueOf, filled]

/-- Whether objects are made, nothing else happens to objects, and what modules there are stays as
far as it has to do with the places where modules are looked for. -/
structure Grows (m n : Memory) : Prop extends Adds m n where
  modules : ∃ more, n.modules = m.modules ++ more ∧ ∀ x ∈ more, x.1 ≠ "sys"
  searchPath : n.searchPath = m.searchPath

namespace Grows

variable {k : Memory}

theorem of_same (adds : m.Adds n) (modules : n.modules = m.modules)
    (searchPath : n.searchPath = m.searchPath) : m.Grows n :=
  ⟨adds, ⟨[], by rw [modules, List.append_nil], nofun⟩, searchPath⟩

theorem refl (m : Memory) : m.Grows m := of_same (.of_cells rfl rfl) rfl rfl

theorem trans (mn : m.Grows n) (nk : n.Grows k) : m.Grows k := by
  obtain ⟨more, hn, others⟩ := mn.modules
  obtain ⟨more', hk, others'⟩ := nk.modules
  refine ⟨mn.toAdds.trans nk.toAdds, ⟨more ++ more', ?_, fun x hx => ?_⟩,
    nk.searchPath.trans mn.searchPath⟩
  · rw [hk, hn, List.append_assoc]
  · exact (List.mem_append.mp hx).elim (others x) (others' x)

theorem alloc (m : Memory) (o : Object) : m.Grows (m.alloc o).2 := of_same (.alloc m o) rfl rfl

end Grows

theorem Holds.adds {r : Ref} {c : Builtin} {v : Value} (h : m.Holds r c v) (hv : v ≠ .plain)
    (mn : m.Adds n) : n.Holds r c v := by
  refine ⟨?_, mn.valueOf h.value hv⟩
  rw [classOf, mn.object (h.has hv)]
  exact h.cls

end Memory

/-! ## Making objects -/

namespace Eval

variable {m : Memory}

/-- Whether an evaluation comes to an object with a value, which is new or there once and for
all. -/
def Makes (f : Eval Ref) (c : Builtin) (v : Value) : Prop :=
  ∀ m : Memory, ∃ r n, f.run m = (.ok r, n) ∧ m.Adds n ∧ r.Above m.cells.size ∧ n.Holds r c v

theorem make_makes (c : Builtin) (v : Value) : Makes (make c v) c v := by
  intro m
  have made := m.object_alloc_new ⟨Ref.ofBuiltin c, v, if c.hasAttributes then some [] else none⟩
  exact ⟨_, _, rfl, .alloc m _, Nat.le_refl _, congrArg Object.cls made, congrArg Object.value made⟩

/-- An object that is there once and for all is not made. -/
theorem static_makes (s : Static) : Makes (pure (.static s)) s.cls s.value :=
  fun m => ⟨_, m, rfl, .of_cells rfl rfl, trivial, rfl, rfl⟩

theorem newInt_makes (n : Int) : Makes (newInt n) .int (.int n) := by
  rw [newInt]
  split
  · exact static_makes (.smallInt n)
  · exact make_makes .int _

theorem newText_makes (t : Text) : Makes (newText t) .str (.text t) := by
  rw [newText]
  split
  · exact static_makes (.shortText t)
  · split
    · exact static_makes (.shortText t)
    · exact make_makes .str _
  · exact make_makes .str _

/-- A text that is made registers no module. -/
theorem newText_grows (t : Text) (m : Memory) :
    ∃ r n, (newText t).run m = (.ok r, n) ∧ m.Grows n ∧ n.modules = m.modules ∧
      n.Holds r .str (.text t) := by
  obtain ⟨r, n, run, adds, -, holds⟩ := newText_makes t m
  have same : n.modules = m.modules ∧ n.searchPath = m.searchPath := by
    rw [newText] at run
    split at run
    · cases run
      exact ⟨rfl, rfl⟩
    · split at run <;> cases run <;> exact ⟨rfl, rfl⟩
    · cases run
      exact ⟨rfl, rfl⟩
  exact ⟨r, n, run, .of_same adds same.1 same.2, same.1, holds⟩

end Eval

end EmbeddedPython
