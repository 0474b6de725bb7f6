import EmbeddedPython.Proofs.Bridge.Agreement
import EmbeddedPython.Proofs.Host.Naming

/-
  Operations that are sure to fail

  What an operation fails with is known where the exception is known that the
  interpreter raises: the error tells the class of the exception and its text. As
  with what an operation returns, the lock, the references that are owned and the
  log make no difference to it, nor does what has been pending before.
-/

namespace EmbeddedPython

variable {α β : Type}

namespace Op

/-- Whether an operation on a memory fails with an error and leaves another memory behind, as long
as there is an interpreter. -/
def Breaks (op : Op α) (m : Memory) (e : Error) (n : Memory) : Prop :=
  ∀ (t : ThreadId) (h : Host), h.lock.alive = true → h.memory = m →
    ∃ k, op.perform t h = (.error (.error e), k) ∧ k.memory = n

namespace Breaks

variable {m n o : Memory} {a : α} {e : Error}

theorem first {op : Op α} (ho : Breaks op m e n) (next : α → Op β) :
    Breaks (op >>= next) m e n := by
  intro t h alive hm
  obtain ⟨k, hk, kn⟩ := ho t h alive hm
  exact ⟨k, by rw [perform_bind, hk], kn⟩

theorem after {op : Op α} {next : α → Op β} (ho : Returns op m a n) (hn : Breaks (next a) n e o) :
    Breaks (op >>= next) m e o := by
  intro t h alive hm
  obtain ⟨k, hk, kn, alive', -⟩ := ho.bind_perform next t alive hm
  obtain ⟨i, hi, io⟩ := hn t k alive' kn
  exact ⟨i, hk.trans hi, io⟩

theorem guarded {body : Op α} (hb : Breaks body m e n) : Breaks (Op.guarded body) m e n := by
  intro t h alive hm
  exact guarded_outcome alive fun lock alive' => hb t { h with lock := lock } alive' hm

theorem ensuring {body : Op α} {last : Op Unit} (hb : Breaks body m e n)
    (hl : Returns last n () o) : Breaks (Op.ensuring body last) m e o := by
  intro t h alive hm
  exact ensuring_outcome alive (hb t h alive hm) hl

/-- What is done after a failure leaves the failure what it is. -/
theorem onFailure {body : Op α} {last : Op Unit} (hb : Breaks body m e n)
    (hl : Returns last n () o) : Breaks (Op.onFailure body last) m e o := by
  intro t h alive hm
  obtain ⟨k, hk, -⟩ := hb t h alive hm
  -- after a failure the last part is done as it is after any end
  have same : (Op.onFailure body last).perform t h = (Op.ensuring body last).perform t h := by
    simp only [Op.onFailure, Op.ensuring, perform_andThen, hk]
    cases (last.perform t k).1 <;> rfl
  rw [same]
  exact hb.ensuring hl t h alive hm

theorem spend {x : Handle} {body : Handle → Op α} (hb : Breaks (body x) m e n) :
    Breaks (x.spend body) m e n :=
  hb.ensuring (x.drop_returns n)

end Breaks

/-! ## Telling what has been raised -/

variable {m n : Memory} {x : Ref} {e : PythonError}

/-- Whether an exception is told by an error, in a memory and in all that it grows into. -/
structure Tells (m : Memory) (x : Ref) (e : PythonError) : Prop where
  exception : m.isException x .baseException = true
  named : m.GoesBy (m.classOf x) e.typeName
  text : ∀ {n : Memory}, m.Grows n →
    ∃ k, (Eval.hostText Machine.top x).run n = (.ok e.message, k) ∧ n.Grows k

theorem tell_returns (fetch : Op Error) (tells : Tells m x e) :
    ∃ n, Returns (tell fetch ⟨m.classOf x, some x⟩) m (.python e) n ∧ m.Grows n := by
  have normal := Eval.normalize_instance tells.exception
    (Memory.isInstance_classOf tells.exception)
  obtain ⟨i, named, grows⟩ := describeType_returns fetch tells.named
  obtain ⟨n, told, grows'⟩ := tells.text grows
  have described : Returns (describe fetch (m.classOf x) x) m (.python e) n := by
    refine (Returns.hold _ m).bind ((Returns.hold _ m).bind ?_)
    refine Handle.spend_returns (Handle.spend_returns ?_)
    exact named.bind ((describeValue_returns fetch told).bind (.pure _ n))
  exact ⟨n, (Returns.enter [] normal).bind described, grows.trans grows'⟩

/-- An exception that is pending is told as it is after it has been fetched. -/
theorem translate_pending {p : Pending} {e : Error} {t : ThreadId} {h : Host}
    (alive : h.lock.alive = true) (pending : h.pending = some p)
    (told : Returns (tell (fetchError 999) p) h.memory e n) :
    ∃ k, translate.perform t h = (.ok e, k) ∧ k.memory = n := by
  rw [translate, translationDepth, fetchError]
  refine guarded_outcome alive fun taken alive' => ?_
  have taking : takePending.perform t { h with lock := taken } =
      (.ok (some p), { h with lock := taken, pending := none }) := by
    rw [← pending]
    rfl
  rw [perform_bind, taking]
  exact told t { h with lock := taken, pending := none } alive' rfl

/-- A call for an object that raises fails with the exception that it raises. -/
theorem request_breaks {body : Eval Ref} (refs : List Ref) (raises : body.run m = (.error x, n))
    (tells : Tells n x e) : ∃ k, Breaks (Op.request refs body) m (.python e) k ∧ n.Grows k := by
  obtain ⟨k, told, grows⟩ := tell_returns (fetchError 999) tells
  refine ⟨k, fun t h alive hm => ?_, grows⟩
  rw [Op.request, perform_bind]
  rcases enter_cases refs body t h with ⟨b, i, -, -, run, -⟩ | ⟨y, i, hr, lock, run, pending, -⟩
  · rw [hm] at run
    cases raises.symm.trans run
  · rw [hm] at run
    obtain ⟨rfl, same⟩ : x = y ∧ n = i.memory :=
      (Prod.mk.inj (raises.symm.trans run)).imp Except.error.inj id
    have alive' : i.lock.alive = true := lock ▸ alive
    obtain ⟨j, hj, jk⟩ := translate_pending (t := t) alive' pending (same ▸ told)
    refine ⟨j, ?_, jk⟩
    rw [hr]
    show ((do Op.fail (← translate) : Op Handle).perform t i) = _
    rw [perform_bind, hj]
    rfl

end Op

/-! ## Exceptions with a text -/

namespace Eval

variable {α : Type} {m : Memory} {a e : Ref}

/-- An exception with a text is made and raised, and nothing else happens. -/
theorem raise_grows (c : ExceptionClass) (s : String) (m : Memory) : ∃ a e n,
    (raise c (.ofString s) : Eval α).run m = (.error e, n) ∧ m.Grows n ∧
      n.Holds a .str (.text (.ofString s)) ∧
      n.Holds e (.exception c) (.exception [a] .nothing) := by
  obtain ⟨a, i, made, grows, -, text⟩ := newText_grows (.ofString s) m
  obtain ⟨e, n, thrown, adds, -, holds⟩ := make_makes (.exception c) (.exception [a] .nothing) i
  have grows' : i.Grows n := by
    cases thrown
    exact .alloc i _
  refine ⟨a, e, n, ?_, grows.trans grows', text.adds nofun adds, holds⟩
  rw [raise, run_bind_ok made, newException, run_bind_ok thrown, run_throw]

/-- Such an exception is shown by its text, unless it is that of a key. -/
theorem strOf_raised {c d : ExceptionClass} (depth : Nat) {s : String}
    (native : (Builtin.exception c).definer? "__str__" = some (.exception d))
    (kind : c ≠ .keyError) (text : m.Holds a .str (.text (.ofString s)))
    (holds : m.Holds e (.exception c) (.exception [a] .nothing)) :
    (strOf (machine (depth + 1)) e).run m = (.ok (.ofString s), m) := by
  have special : m.special e "__str__" = some (.native (.exception d)) := by
    rw [holds.special, native]
    rfl
  have lineage : exceptionKind m (m.classOf e) = some c := by
    rw [holds.cls]
    rfl
  have shown : (argumentsText (machine (depth + 1)) [a]).run m = (.ok (.ofString s), m) :=
    strOf_text (machine depth) text
  simp only [strOf]
  rw [run_special_bind, special]
  simp only [exceptionText]
  rw [run_valueOf_bind, holds.value]
  simp only [run_memory_bind, lineage, Option.getD_some]
  split
  · exact absurd rfl kind
  · exact shown

/-- An exception with a text is told by its class and that text. -/
theorem raise_tells {c d : ExceptionClass} (s : String) (m : Memory)
    (native : (Builtin.exception c).definer? "__str__" = some (.exception d))
    (kind : c ≠ .keyError) :
    ∃ e n, (raise c (.ofString s) : Eval α).run m = (.error e, n) ∧ m.Grows n ∧
      Op.Tells n e ⟨(Builtin.exception c).name, s⟩ := by
  obtain ⟨a, e, n, raised, grows, text, holds⟩ := raise_grows (α := α) c s m
  refine ⟨e, n, raised, grows, ?_, ?_, fun {k} nk => ?_⟩
  · rw [Memory.isException, holds.isKind]
    cases c <;> rfl
  · rw [holds.cls]
    exact n.goesBy_builtin _
  · exact hostText_of_str (strOf_raised 998 native kind (text.adds nofun nk.toAdds)
      (holds.adds nofun nk.toAdds))

end Eval

end EmbeddedPython
