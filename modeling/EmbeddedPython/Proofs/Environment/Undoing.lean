import EmbeddedPython.Proofs.Environment.Lifecycle
import EmbeddedPython.Proofs.Environment.Needs

/-
  What a failed start leaves behind

  A start that fails drops what there is of the environment. This clears the mark
  of the live environment, and leaves the interpreter as it was: a start that has
  initialized the interpreter itself finds all it needs there. The places that
  the environment has appended to those where modules are looked for are not
  taken back.
-/

namespace EmbeddedPython

open Activity Bridge Op

/-! ## The interpreter that an environment initializes -/

namespace Eval

/-- Texts are made one after the other. -/
theorem newStrings_grows (texts : List String) (m : Memory) : ∃ refs n,
    (texts.mapM newString).run m = (.ok refs, n) ∧ m.Grows n ∧ n.modules = m.modules ∧
      n.Spell refs texts := by
  induction texts generalizing m with
  | nil => exact ⟨[], m, rfl, .refl m, rfl, .nil⟩
  | cons s rest ih =>
    obtain ⟨r, i, made, grows, same, text⟩ := newText_grows (.ofString s) m
    obtain ⟨refs, n, others, grows', same', spell⟩ := ih i
    refine ⟨r :: refs, n, ?_, grows.trans grows', same'.trans same, ?_⟩
    · rw [List.mapM_cons, newString, run_bind_ok made, run_bind_ok others, run_pure]
    · exact .cons (text.adds (by simp) grows'.toAdds) spell

end Eval

namespace Process

variable (p : Process) (o : Options)

/-- A new interpreter looks for modules in the places that it is made with, and has imported
none. -/
theorem beginInterpreter_searches : ∃ id items,
    p.beginInterpreter.host.memory.Searches id items ∧
      p.beginInterpreter.host.memory.Spell items initialSearchPath ∧
      p.beginInterpreter.host.memory.modules = [] := by
  let fresh : Memory := { Memory.fresh with
    cells := p.host.memory.cells, customized := p.host.memory.customized,
    output := p.host.memory.output }
  obtain ⟨items, i, run, -, same, spell⟩ := Eval.newStrings_grows initialSearchPath fresh
  let list : Object := ⟨Ref.ofBuiltin .list, .list items, none⟩
  let n : Memory := { (i.alloc list).2 with searchPath := some (.cell i.cells.size) }
  have memory : p.beginInterpreter.host.memory = n := by
    have made : (do Eval.newList (← initialSearchPath.mapM Eval.newString) : Eval Ref).run fresh =
        (.ok (.cell i.cells.size), (i.alloc list).2) := by
      rw [Eval.run_bind_ok run]
      rfl
    rw [beginInterpreter]
    dsimp only
    rw [made]
  have grows : i.Adds n := (Memory.Adds.alloc i list).trans (.of_cells rfl rfl)
  have modules : n.modules = [] := same
  have object : n.object (.cell i.cells.size) = list := i.object_alloc_new list
  rw [memory]
  refine ⟨i.cells.size, items, ⟨?_, ⟨?_, ?_⟩, ?_⟩, spell.adds grows, modules⟩
  · rw [Memory.currentSearchPath, modules]
    rfl
  · exact congrArg Object.cls object
  · exact congrArg Object.value object
  · rw [object]

theorem enroll_memory_of_absent (absent : p.host.lock.alive = false) :
    (p.enroll o).host.memory = p.beginInterpreter.host.memory := by
  simp [enroll, absent]

end Process

namespace Activity

variable {p : Process} {t : ThreadId} {o : Options}

/-! ## Dropping what has been started -/

/-- The environment that a failed start leaves behind. -/
def abandoned (o : Options) : Environment := ⟨o, false, none, none, 0, true⟩

theorem resolve_of_ok {e : EnvironmentId} {b : Bindings} {q : Process}
    (asked : ask t (resolveBindings (p.environment e).options) p = (.ok b, q)) :
    resolve t e p = (.ok (), q.changeEnvironment e fun x => { x with bindings := some b }) := by
  rw [resolve, run_get_bind, run_bind, asked]
  rfl

/-- A start returns where its needs are met. -/
theorem start_of_returns (t : ThreadId) (inactive : p.active = false) {b : Bindings} {n : Memory}
    (returns : Returns (resolveBindings o) (p.enroll o).host.memory b n) :
    (start t o p).1 = .ok p.environments.size ∧ (start t o p).2.host.memory = n := by
  have new : ((p.enroll o).environment p.environments.size).options = o := by
    rw [p.enroll_environment, if_pos rfl]
  obtain ⟨k, hk, kn⟩ := returns t (p.enroll o).host (p.enroll_alive o) rfl
  have asked : ask t (resolveBindings ((p.enroll o).environment p.environments.size).options)
      (p.enroll o) = (.ok b, { p.enroll o with host := k }) := by
    rw [new, ask, hk]
  rw [start_of_inactive inactive, resolve_of_ok asked]
  exact ⟨rfl, kn⟩

/-- A start that has to initialize the interpreter succeeds, and appends its places to those that
the interpreter is made with. -/
theorem start_of_absent (t : ThreadId) (o : Options) (inactive : p.active = false)
    (absent : p.host.lock.alive = false) : (start t o p).1 = .ok p.environments.size ∧
      ∃ id places, (start t o p).2.host.memory.Searches id places ∧
        (start t o p).2.host.memory.Spell places (initialSearchPath ++ o.searchPaths) := by
  obtain ⟨id, items, searches, initial, modules⟩ := p.beginInterpreter_searches
  rw [← p.enroll_memory_of_absent o absent] at searches initial modules
  have genuine : (p.enroll o).host.memory.GenuineAsyncio := by
    intro r registered
    rw [modules] at registered
    cases registered
  obtain ⟨n, added, searches', spell, refills, resolves⟩ :=
    resolveBindings_outcome o searches genuine
  rw [Memory.missing?, modules] at resolves
  obtain ⟨b, returns⟩ := resolves
  obtain ⟨told, rfl⟩ := start_of_returns t inactive returns
  exact ⟨told, id, items ++ added, searches',
    List.rel_append (initial.refills searches.holds refills) spell⟩

/-! ## What is undone -/

/-- What is undone of a start that fails: no environment is live that was not before, the
interpreter is there if and only if it was, no environment of the start has been handed out or owns
the interpreter, and a start is refused if and only if it would have been refused before. -/
structure Undone (p q : Process) : Prop where
  active : q.active = p.active
  interpreter : q.host.lock.interpreter = p.host.lock.interpreter
  handed : ∀ e, isOpen q e = isOpen p e
  owns : ∀ e, (q.environment e).owns = (p.environment e).owns
  refuses : ∀ (t : ThreadId) (o : Options),
    (start t o q).1 = .error .alreadyRunning ↔ (start t o p).1 = .error .alreadyRunning

/-- Options of an environment with a place to look for modules. -/
def elsewhere : Options := { Options.default with searchPaths := ["/nowhere"] }

end Activity

end EmbeddedPython
