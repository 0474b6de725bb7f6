import EmbeddedPython.Bridge.Iteration
import EmbeddedPython.Proofs.Asyncio.Serving
import EmbeddedPython.Proofs.Bridge.Report
import EmbeddedPython.Proofs.Host.Naming

/-
  Telling the end of an iteration

  A generator that has no more items ends its step with an exception of the
  class that ends an iteration, without arguments. It is told by the name of the
  class and an empty text, and telling it always succeeds.
-/

namespace EmbeddedPython

open Bridge Op

namespace Eval

variable {m : Memory} {e : Ref}

/-- The exception that ends an iteration has no text. -/
theorem hostText_endOfItems (stop : m.object e = endOfItems) :
    ∃ n, (hostText Machine.top e).run m = (.ok "", n) := by
  have cls : m.classOf e = Ref.ofExceptionClass .stopAsyncIteration := congrArg Object.cls stop
  have value : m.valueOf e = .exception [] .nothing := congrArg Object.value stop
  have native : m.special e "__str__" = some (.native (.exception .baseException)) := by
    rw [Memory.special_builtin cls]
    decide
  have str : (Machine.top.str e).run m = (.ok (Text.ofString ""), m) := by
    show (strOf (machine 999) e).run m = _
    simp only [strOf]
    rw [run_special_bind, native]
    simp only [exceptionText]
    rw [run_valueOf_bind, value]
    simp only [run_memory_bind, cls]
    rfl
  obtain ⟨n, told, -⟩ := hostText_of_str str
  exact ⟨n, told⟩

end Eval

/-- How the end of an iteration is told. -/
def PythonError.end : PythonError := ⟨endOfIteration, ""⟩

theorem PythonError.ofException_endOfItems {m : Memory} {e : Ref} (stop : m.object e = endOfItems) :
    ∃ n, Returns (PythonError.ofException (Handle.adopt e)) m PythonError.end n := by
  have cls : m.classOf e = Ref.ofExceptionClass .stopAsyncIteration := congrArg Object.cls stop
  have value : m.valueOf e = .exception [] .nothing := congrArg Object.value stop
  have named : m.GoesBy (m.classOf e) endOfIteration := cls ▸ m.goesBy_builtin _
  obtain ⟨i, described, grows⟩ := describeType_returns translate named
  have kept : i.object e = endOfItems :=
    (grows.object (Memory.has_of_value (by rw [value]; nofun))).trans stop
  obtain ⟨n, text⟩ := Eval.hostText_endOfItems kept
  exact ⟨n, (Handle.getTypeBy_returns e m).attempt.bind
    ((Handle.spend_returns described).bind ((describeValue_returns translate text).bind (.pure _ n)))⟩

namespace Bridge.Tracked

variable {y : Tracked} {m : Memory} {f : Future} {e : Ref}

theorem drop_returns (y : Tracked) (m : Memory) : Returns y.drop m () m :=
  (y.task.drop_returns m).bind (y.done.drop_returns m)

/-- A task that a generator has ended is told by the end of the iteration. -/
theorem outcome?_ended (live : y.Live) (answers : m.Answers y.task.ref y.done.ref)
    (future : m.GenuineFuture y.task.ref f) (failed : f.outcome = .failed e)
    (stop : m.object e = endOfItems) (t : ThreadId) {h : Host} (alive : h.lock.alive = true)
    (hm : h.memory = m) :
    (y.outcome?.perform t h).1 = .ok (some (.error (.python PythonError.end))) := by
  have done : f.outcome.isDone = true := by rw [failed]; rfl
  have uncancelled : f.outcome ≠ .cancelled := by rw [failed]; nofun
  have value : m.valueOf e = .exception [] .nothing := congrArg Object.value stop
  obtain ⟨i, hi, adds, alive, -⟩ := outcome?_goes_on live answers future done uncancelled t alive hm
  obtain ⟨n, more, raised⟩ := exception_returns live (future.adds adds) done uncancelled
  rw [failed] at raised
  have kept : n.object e = endOfItems :=
    ((adds.trans more).object (Memory.has_of_value (by rw [value]; nofun))).trans stop
  obtain ⟨k, told⟩ := PythonError.ofException_endOfItems kept
  have there : (Handle.adopt e).isNone = false := by
    refine beq_false_of_ne ?_
    rintro rfl
    cases value
  have translated : Returns ((Handle.adopt e).spend translated?) n (some PythonError.end) k := by
    refine Handle.spend_returns ?_
    simp only [translated?, there]
    exact told.bind (.pure _ k)
  have raised? : Returns y.raised? i.memory (some PythonError.end) k := raised.bind translated
  obtain ⟨j, hj, -⟩ := raised?.bind_perform (fun r => y.concluded r) t alive rfl
  rw [hi, hj]
  rfl

end Bridge.Tracked

end EmbeddedPython
