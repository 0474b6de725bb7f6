import EmbeddedPython.Proofs.Bridge.Report
import EmbeddedPython.Proofs.Handle.Reading
import EmbeddedPython.Proofs.Host.Nesting

/-
  Fetched exceptions and exception objects are told alike

  The host tells an exception that it has fetched after a call that failed, and
  one that it has been given as an object, as by a task. The former has to be
  normalized first, which comes to nothing for an exception that is an instance
  of the class that it is pending for. From there on both ask for the name of
  the class of the exception and for its text.

  So an exception that answers these questions in one way is told in one way,
  by whatever path it has come to the host.
-/

namespace EmbeddedPython

open Bridge Op

variable {α β : Type}

/-- What a question is answered in a memory, if it does not fail. -/
def Eval.answered (question : Eval String) (m : Memory) : Option String :=
  (question.run m).1.toOption

open Telling

/-- Whether an exception is told in one way wherever it is asked about: its class has one name, or
none that can be read, it has one text, or none, asking for the name leads nowhere else, and what is
raised meanwhile is told within the stack. -/
structure Steady (e : Ref) (asked : Memory → Prop) : Prop where
  exception : ∀ {m}, asked m → m.isException e .baseException = true
  name : ∀ {m n}, asked m → asked n →
    (Eval.hostKind Machine.top e).answered m = (Eval.hostKind Machine.top e).answered n
  text : ∀ {m n}, asked m → asked n →
    (Eval.hostText Machine.top e).answered m = (Eval.hostText Machine.top e).answered n
  named : ∀ {depth m s n}, asked m → (within depth).answer unknownType
    (Eval.hostTypeName Machine.top (m.classOf e)) m = some (s, n) → asked n
  ends : ∀ {m}, asked m → ∃ depth < translationDepth, ∃ told,
    (within depth).portrait (m.classOf e) e m = some told

/-! ## What is told -/

/-- An answer is what the question is answered, or the placeholder. -/
theorem Telling.answer_eq {tell : Telling} {placeholder s : String} {question : Eval String}
    {m n : Memory} (h : tell.answer placeholder question m = some (s, n)) :
    s = (question.answered m).getD placeholder := by
  unfold answer at h
  rw [Eval.answered]
  split at h
  · next run =>
    cases h
    rw [run]
    rfl
  · next run =>
    obtain ⟨_, -, same⟩ := Option.map_eq_some_iff.mp h
    cases same
    rw [run]
    rfl

/-- An exception stands for itself where it is pending for a class of which it is an instance. -/
theorem Eval.normalize_instance {m : Memory} {e cls : Ref}
    (exception : m.isException e .baseException = true) (inst : m.isInstance e cls = true) :
    (normalize Machine.top ⟨cls, some e⟩).run m = (.ok (m.classOf e, e), m) := by
  simp only [normalize, run_memory_bind, Option.getD_some, exception, inst, Bool.and_self,
    if_true, run_pure]

theorem Eval.hostKind_answered (e : Ref) (m : Memory) : (hostKind Machine.top e).answered m =
    (hostTypeName Machine.top (m.classOf e)).answered m := by
  rw [answered, answered, hostKind, run_memory_bind]

theorem Memory.class?_builtin {m : Memory} {cls : Ref} {c : Builtin}
    (h : m.class? cls = some (.builtin c)) : cls = Ref.ofBuiltin c := by
  cases cls with
  | static s =>
    cases s with
    | builtin d =>
      cases h
      rfl
    | _ => cases h
  | cell id =>
    rw [Memory.class?] at h
    split at h <;> cases h

/-- What is an instance of any class is one of its own. -/
theorem Memory.isInstance_classOf {m : Memory} {r cls : Ref} (h : m.isInstance r cls = true) :
    m.isInstance r (m.classOf r) = true := by
  rw [Memory.isInstance, Memory.isSubclass, List.contains_iff_mem] at h ⊢
  rw [Memory.lineage] at h ⊢
  cases known : m.class? (m.classOf r) with
  | none =>
    rw [known] at h
    cases h
  | some view =>
    cases view with
    | builtin c =>
      rw [Memory.class?_builtin known]
      exact List.mem_cons_self
    | made info => exact List.mem_cons_self

namespace Steady

variable {e : Ref} {asked : Memory → Prop}

/-- What is told of an exception wherever that comes to an end. -/
theorem portrait_eq (steady : Steady e asked) {m n : Memory} (hm : asked m) (hn : asked n)
    {depth : Nat} {told : PythonError × Memory}
    (h : (within depth).portrait (m.classOf e) e m = some told) :
    told.1 = ⟨((Eval.hostKind Machine.top e).answered n).getD unknownType,
      ((Eval.hostText Machine.top e).answered n).getD unprintable⟩ := by
  obtain ⟨⟨typeName, named⟩, first, rest⟩ := Option.bind_eq_some_iff.mp h
  obtain ⟨⟨text, texted⟩, second, rfl⟩ := Option.map_eq_some_iff.mp rest
  have name := answer_eq first
  have message := answer_eq second
  rw [← Eval.hostKind_answered, steady.name hm hn] at name
  rw [steady.text (steady.named hm first) hn] at message
  rw [← name, ← message]

/-- All tellings that have levels enough come to the same. -/
theorem told (steady : Steady e asked) : ∃ error : PythonError, ∀ m, asked m →
    error.typeName = ((Eval.hostKind Machine.top e).answered m).getD unknownType ∧
    error.message = ((Eval.hostText Machine.top e).answered m).getD unprintable ∧
    ∀ depth, translationDepth ≤ depth + 1 →
      ∃ n, (within depth).portrait (m.classOf e) e m = some (error, n) := by
  by_cases some : ∃ m, asked m
  · obtain ⟨n, hn⟩ := some
    refine ⟨⟨((Eval.hostKind Machine.top e).answered n).getD unknownType,
      ((Eval.hostText Machine.top e).answered n).getD unprintable⟩, fun m hm => ?_⟩
    refine ⟨by rw [steady.name hm hn], by rw [steady.text hm hn], fun depth le => ?_⟩
    obtain ⟨d, less, ⟨error, k⟩, h⟩ := steady.ends hm
    have more := (within_mono (show d ≤ depth by omega)).portrait h
    exact ⟨k, more.trans (by rw [← steady.portrait_eq hm hn h])⟩
  · exact ⟨⟨"", ""⟩, fun m hm => absurd ⟨m, hm⟩ some⟩

end Steady

/-- What settles returns if it is known what it comes to. -/
theorem Host.Settles.returns {made : β → α} {b : β} {n : Memory} {result : Except Failure α × Host}
    (h : Host.Settles made (some (b, n)) result) : result.1 = .ok (made b) := by
  cases h with
  | ended comes _ =>
    cases comes
    rfl
  | endless never => cases never

/-! ## Both paths -/

section

variable {t : ThreadId} {h k : Host} {e cls : Ref} {error : PythonError} {n : Memory}

end

end EmbeddedPython
