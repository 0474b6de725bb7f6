import EmbeddedPython.Proofs.Handle.RoundTrip
import EmbeddedPython.Proofs.Host.Returning

/-
  The names of exception types

  An error of the host names the type of the exception that it tells. A class
  that answers for its name itself may say anything there; any other class is
  named as it was made, whatever it descends from.
-/

namespace EmbeddedPython

namespace Memory

/-- Whether a class goes by a name: it is a built-in one, or a program made it with this name and
does not answer for it. -/
structure GoesBy (m : Memory) (cls : Ref) (name : String) : Prop where
  class' : (m.class? cls).isSome = true
  plain : m.classOf cls = Ref.ofBuiltin .type
  unanswered : ∀ info, m.class? cls = some (.made info) → info.nameOutcome = none
  name : m.className cls = name

variable {m n : Memory} {cls : Ref} {name : String}

/-- A built-in class goes by its name. -/
theorem goesBy_builtin (m : Memory) (c : Builtin) : m.GoesBy (Ref.ofBuiltin c) c.name :=
  ⟨rfl, rfl, nofun, rfl⟩

theorem GoesBy.has (h : m.GoesBy cls name) : m.Has cls := by
  cases cls with
  | static s => trivial
  | cell id =>
    refine has_of_value fun plain => ?_
    have := h.class'
    rw [class?, plain] at this
    cases this

/-- A class keeps its name while objects are made. -/
theorem GoesBy.adds (h : m.GoesBy cls name) (mn : m.Adds n) : n.GoesBy cls name := by
  have object := mn.object h.has
  have same : n.class? cls = m.class? cls := by
    cases cls with
    | static s => cases s <;> rfl
    | cell id => simp only [class?, valueOf, object]
  refine ⟨?_, ?_, ?_, ?_⟩
  · rw [same]
    exact h.class'
  · rw [classOf, object]
    exact h.plain
  · rw [same]
    exact h.unanswered
  · rw [className, same]
    exact h.name

end Memory

namespace Eval

variable {m : Memory} {r cls : Ref} {name : String}

/-- The text of a text is the text. -/
theorem strOf_text (mach : Machine) {t : Text} (holds : m.Holds r .str (.text t)) :
    (strOf mach r).run m = (.ok t, m) := by
  have native : m.special r "__str__" = some (.native .str) := holds.special "__str__"
  simp only [strOf]
  rw [run_special_bind, native]
  simp only [run_valueOf_bind, holds.value, run_pure]

/-- What is read of an object is the text that the interpreter makes of it. -/
theorem hostText_of_str {s : String} (str : (Machine.top.str r).run m = (.ok (.ofString s), m)) :
    ∃ n, (hostText Machine.top r).run m = (.ok s, n) ∧ m.Grows n := by
  obtain ⟨x, n, made, grows, -, text⟩ := newText_grows (.ofString s) m
  have object : (strObject Machine.top r).run m = (.ok x, n) := by
    rw [strObject, run_bind_ok str, made]
  refine ⟨n, ?_, grows⟩
  rw [hostText, run_bind_ok object, utf8Of_run text.value (Text.firstSurrogates_ofString s),
    Text.toStringLossy_ofString]

/-- What is read of a text that has been made is that text. -/
theorem hostText_run {s : String} (holds : m.Holds r .str (.text (.ofString s))) :
    ∃ n, (hostText Machine.top r).run m = (.ok s, n) ∧ m.Grows n :=
  hostText_of_str (strOf_text (machine 999) holds)

theorem classData_name (mach : Machine) (named : m.GoesBy cls name) :
    (classData mach cls "__name__").run m = (do pure (some (← newString name)) :
      Eval (Option Ref)).run m := by
  have known := named.class'
  have called := named.name
  simp only [classData, run_memory_bind]
  rw [Memory.className] at called ⊢
  cases hc : m.class? cls with
  | none =>
    rw [hc] at known
    cases known
  | some view =>
    cases view with
    | builtin c =>
      rw [hc] at called
      exact called ▸ rfl
    | made info =>
      rw [hc] at called
      simp only [named.unanswered info hc]
      exact called ▸ rfl

/-- The name of a class is read as it is. -/
theorem getAttr_name (mach : Machine) (named : m.GoesBy cls name) :
    ∃ r n, (getAttr mach cls "__name__").run m = (.ok r, n) ∧ m.Grows n ∧
      n.Holds r .str (.text (.ofString name)) := by
  obtain ⟨r, n, made, grows, -, holds⟩ := newText_grows (.ofString name) m
  have found : (findAttr mach cls "__name__").run m = (.ok (some r), n) := by
    have data : (classData mach cls "__name__").run m = (.ok (some r), n) := by
      rw [classData_name mach named, newString, run_bind_ok made]
      rfl
    simp only [findAttr, run_memory_bind, named.class', if_true, findClassAttr]
    rw [run_bind_ok data]
    rfl
  have absent : m.special cls "__getattr__" = none := Memory.special_builtin named.plain "__getattr__"
  refine ⟨r, n, ?_, grows, holds⟩
  simp only [getAttr]
  rw [run_special_bind, absent]
  simp only
  rw [run_bind_ok found]
  rfl

end Eval

/-! ## What an error names -/

namespace Handle

open Op

variable {m n : Memory} {r : Ref} {fetch : Op Error}

/-- A call that returns an object is not asked for an exception. -/
theorem ownedBy_returns {body : Eval Ref} (refs : List Ref) (run : body.run m = (.ok r, n)) :
    Returns (do ownedBy fetch (← enter refs body)) m (adopt r) n :=
  (Returns.enter refs run).bind ((Returns.hold r n).bind (.pure _ n))

theorem getAttrBy_returns {name : String} {x : Ref} (plain : terminated name = .ok name)
    (run : (Eval.getAttr Machine.top r name).run m = (.ok x, n)) :
    Returns ((adopt r).getAttrBy fetch name) m (adopt x) n := by
  rw [getAttrBy, live_run rfl, pure_bind, plain]
  exact .guarded (ownedBy_returns [r] run)

theorem strBy_returns {s : String} (run : (Eval.hostText Machine.top r).run m = (.ok s, n)) :
    Returns ((adopt r).strBy fetch) m s n := by
  rw [Eval.hostText, Eval.run_bind] at run
  generalize object : (Eval.strObject Machine.top r).run m = b at run
  obtain ⟨_ | x, k⟩ := b
  · cases run
  rw [strBy, live_run rfl, pure_bind]
  have owned : Returns (ownedBy fetch (some x)) k (adopt x) k := (Returns.hold x k).bind (.pure _ k)
  have text : Returns (textBy fetch (some x)) k s n :=
    owned.bind (spend_returns ((Returns.enter [x] run).bind (.pure s n)))
  exact .guarded ((Returns.enter [r] object).bind text)

theorem getTypeBy_returns (r : Ref) (m : Memory) :
    Returns ((adopt r).getTypeBy fetch) m (adopt (m.classOf r)) m := by
  rw [getTypeBy, live_run rfl, pure_bind]
  exact .guarded (ownedBy_returns [r] rfl)

end Handle

namespace Op

variable {m : Memory} {cls : Ref} {name : String}

/-- A type is described by its name. -/
theorem describeType_returns (fetch : Op Error) (named : m.GoesBy cls name) :
    ∃ n, Returns (describeType fetch (Handle.adopt cls)) m name n ∧ m.Grows n := by
  obtain ⟨r, k, read, grows, holds⟩ := Eval.getAttr_name Machine.top named
  obtain ⟨n, told, grows'⟩ := Eval.hostText_run holds
  have asked : Returns ((Handle.adopt cls).getAttrBy fetch "__name__" >>= fun x =>
      x.spend fun x => x.strBy fetch) m name n :=
    (Handle.getAttrBy_returns rfl read).bind (Handle.spend_returns (Handle.strBy_returns told))
  exact ⟨n, Returns.bind asked.attempt (.pure name n), grows.trans grows'⟩

/-- A value is described by its text. -/
theorem describeValue_returns (fetch : Op Error) {r : Ref} {s : String} {n : Memory}
    (told : (Eval.hostText Machine.top r).run m = (.ok s, n)) :
    Returns (describeValue fetch (Handle.adopt r)) m s n :=
  Returns.bind (Handle.strBy_returns told).attempt (.pure s n)

end Op

/-- The error that tells an exception names the class of the exception. -/
theorem PythonError.ofException_names {r : Ref} {name : String} {e : PythonError} {t : ThreadId}
    {h : Host} (alive : h.lock.alive = true) (named : h.memory.GoesBy (h.memory.classOf r) name)
    (told : ((ofException (Handle.adopt r)).perform t h).1 = .ok e) : e.typeName = name := by
  obtain ⟨n, described, -⟩ := Op.describeType_returns Op.translate named
  obtain ⟨k, hk, kn⟩ := (Handle.getTypeBy_returns r h.memory).attempt t h alive rfl
  have alive' := Op.alive_perform (Op.attempt ((Handle.adopt r).getTypeBy Op.translate)) t alive
  rw [hk] at alive'
  obtain ⟨i, hi, -⟩ := (Handle.spend_returns described).bind_perform (fun typeName => do
    pure (⟨typeName, ← Op.describeValue Op.translate (Handle.adopt r)⟩ : PythonError)) t alive' kn
  rw [ofException, Op.perform_bind, hk] at told
  change ((Handle.spend _ _ >>= _).perform t k).1 = _ at told
  rw [hi, Op.perform_bind] at told
  generalize (Op.describeValue Op.translate (Handle.adopt r)).perform t i = b at told
  obtain ⟨_ | text, j⟩ := b
  · cases told
  · cases told
    rfl

end EmbeddedPython
