import EmbeddedPython.Proofs.Bridge.Outcome

/-
  What a task reports

  The questions of a driver come in a fixed order, and what a task answers to
  them decides what its caller is told. `Tracked.Reports` reads this off the
  answers alone, for any object that stands for a task. `Tracked.Conveys` says
  what comes of it for a future that asyncio has made.
-/

namespace EmbeddedPython

open Bridge

variable {α : Type}

/-! ## Failures, as a driver takes them -/

/-- What a failure is taken for. An operation that never comes back leaves a closed loop behind. -/
def Failure.toError : Failure → Error
  | .error e => e
  | _ => .eventLoopClosed

theorem Failure.Proper.toError {f : Failure} (h : f.Proper) : f.toError.IsProper := by
  cases f with
  | error e => exact h
  | _ => exact ⟨nofun, nofun⟩

namespace Op

/-- Whether an operation fails with an error. -/
def Fails (op : Op α) (t : ThreadId) (h : Host) (e : Error) : Prop :=
  ∃ f, (op.perform t h).1 = .error f ∧ f.toError = e

theorem Proper.isProper {op : Op α} (proper : Proper op) {t : ThreadId} {h : Host}
    (alive : h.lock.alive = true) {e : Error} (fails : op.Fails t h e) : e.IsProper := by
  obtain ⟨f, hf, rfl⟩ := fails
  exact (proper t h alive f hf).toError

theorem Proper.fails {op : Op α} (proper : Proper op) {t : ThreadId} {h : Host}
    (alive : h.lock.alive = true) {e : Error} (fails : op.Fails t h e) : e ≠ .canceled :=
  (proper.isProper alive fails).1

end Op

namespace Bridge

open Op

theorem isTrue_proper {call : Op Handle} (h : Proper call) : Proper (isTrue call) :=
  .bind h fun _ => Handle.spend_proper (Handle.isTruthy_proper _)

theorem startTask_proper (b : DriverBindings) (coroutine : Handle) :
    Proper (startTask b coroutine) := by
  have prepares (task : Handle) : Proper (do
      (← task.callMethod "add_done_callback" [b.stopOnDone]).drop
      task.getAttr "done") :=
    .bind (task.callMethod_proper _ _) fun _ => .bind (Handle.drop_proper _) fun _ =>
      task.getAttr_proper _
  refine .bind (Handle.callWithKeywords_proper _ _ _ _ _) fun task => ?_
  -- the error that is raised in the end is the one that preparing the task failed with
  refine .attempt_bind (prepares task) (fun done => .pure _) fun e he => ?_
  refine .bind (.attempt (task.callMethod_proper _ _)) fun cancelled => ?_
  cases cancelled with
  | ok result =>
    exact .bind result.drop_proper fun _ => .bind task.drop_proper fun _ => .fail he
  | error _ =>
    exact .bind (.update _ _) fun _ => .bind task.drop_proper fun _ => .fail he

/-! ## The answers of a task -/

namespace Tracked

variable {x : Tracked} {t : ThreadId} {h i j k : Host} {e : Error} {o : Option Outcome}

/-- Whether a task says that it is done. -/
def Says (x : Tracked) (t : ThreadId) (h : Host) (done : Bool) (k : Host) : Prop :=
  (isTrue (x.done.call [])).perform t h = (.ok done, k)

/-- Whether a task that is done says that it has been cancelled. -/
def Admits (x : Tracked) (t : ThreadId) (h : Host) (cancelled : Bool) (k : Host) : Prop :=
  ∃ i, x.Says t h true i ∧
    (isTrue (x.task.callMethod "cancelled" [])).perform t i = (.ok cancelled, k)

/-- What a task has raised that is done and has not been cancelled, translated. -/
def Raises (x : Tracked) (t : ThreadId) (h : Host) (raised : Option PythonError) (k : Host) : Prop :=
  ∃ i, x.Admits t h false i ∧ x.raised?.perform t i = (.ok raised, k)

/-- How the questions to a task can fail. -/
inductive Breaks (x : Tracked) (t : ThreadId) (h : Host) : Error → Prop where
  | done {e : Error} (fails : (isTrue (x.done.call [])).Fails t h e) : Breaks x t h e
  | cancelled {e : Error} {k : Host} (done : x.Says t h true k)
      (fails : (isTrue (x.task.callMethod "cancelled" [])).Fails t k e) : Breaks x t h e
  | exception {e : Error} {k : Host} (uncancelled : x.Admits t h false k)
      (fails : x.raised?.Fails t k e) : Breaks x t h e
  | result {e : Error} {k : Host} (unraised : x.Raises t h none k)
      (fails : (x.task.callMethod "result" []).Fails t k e) : Breaks x t h e

/-- What the answers of a task come to. -/
inductive Reports (x : Tracked) (t : ThreadId) (h : Host) : Option Outcome → Prop where
  | undone {k : Host} (done : x.Says t h false k) : Reports x t h none
  | cancelled {k : Host} (cancelled : x.Admits t h true k) :
      Reports x t h (some (.error .canceled))
  | raised {k : Host} {err : PythonError} (raised : x.Raises t h (some err) k) :
      Reports x t h (some (.error (.python err)))
  | returned {i k : Host} {v : Handle} (unraised : x.Raises t h none i)
      (result : (x.task.callMethod "result" []).perform t i = (.ok v, k)) :
      Reports x t h (some (.ok v))
  | broken {e : Error} (breaks : x.Breaks t h e) : Reports x t h (some (.error e))

/-- What a driver makes of having asked a task. -/
def learnt : Except Failure (Option Outcome) → Option Outcome
  | .ok o => o
  | .error f => some (.error f.toError)

theorem learnt_of_fails {op : Op α} {next : α → Op (Option Outcome)} (fails : op.Fails t h e) :
    learnt ((op >>= next).perform t h).1 = some (.error e) := by
  obtain ⟨f, hf, rfl⟩ := fails
  rw [Op.perform_bind]
  generalize op.perform t h = b at hf
  obtain ⟨r, k⟩ := b
  cases hf
  rfl

theorem Says.outcome? (said : x.Says t h true i) : x.outcome?.perform t h = (do
    if ← isTrue (x.task.callMethod "cancelled" []) then pure (some (.error .canceled))
    else do x.concluded (← x.raised?) : Op (Option Outcome)).perform t i := by
  rw [outcome?_eq, Op.perform_bind, said]
  rfl

theorem Admits.outcome? (uncancelled : x.Admits t h false j) : x.outcome?.perform t h =
    (do x.concluded (← x.raised?) : Op (Option Outcome)).perform t j := by
  obtain ⟨i, said, hc⟩ := uncancelled
  rw [said.outcome?, Op.perform_bind, hc]
  rfl

theorem Raises.outcome? {raised : Option PythonError} (raises : x.Raises t h raised k) :
    x.outcome?.perform t h = (x.concluded raised).perform t k := by
  obtain ⟨j, uncancelled, hr⟩ := raises
  rw [uncancelled.outcome?, Op.perform_bind, hr]

/-- What a task reports is what a driver learns. -/
theorem Reports.learnt (reports : x.Reports t h o) : learnt (x.outcome?.perform t h).1 = o := by
  cases reports with
  | undone said =>
    rw [outcome?_eq, Op.perform_bind, said]
    rfl
  | cancelled admits =>
    obtain ⟨i, said, hc⟩ := admits
    rw [said.outcome?, Op.perform_bind, hc]
    rfl
  | raised raises =>
    rw [raises.outcome?]
    rfl
  | returned unraised result =>
    rw [unraised.outcome?]
    simp only [concluded, Op.perform_bind, Op.perform_attempt, result]
    rfl
  | broken breaks =>
    cases breaks with
    | done fails =>
      rw [outcome?_eq]
      exact learnt_of_fails fails
    | cancelled said fails =>
      rw [said.outcome?]
      exact learnt_of_fails fails
    | exception uncancelled fails =>
      rw [uncancelled.outcome?]
      exact learnt_of_fails fails
    | @result k unraised fails =>
      obtain ⟨f, hf, rfl⟩ := fails
      rw [unraised.outcome?]
      simp only [concluded, Op.perform_bind, Op.perform_attempt]
      generalize (x.task.callMethod "result" []).perform t k = b at hf
      obtain ⟨r, n⟩ := b
      cases hf
      cases f <;> rfl

/-- A task always reports something. -/
theorem reports (x : Tracked) (t : ThreadId) (h : Host) :
    x.Reports t h (Tracked.learnt (x.outcome?.perform t h).1) := by
  have report {o : Option Outcome} (reports : x.Reports t h o) :
      x.Reports t h (Tracked.learnt (x.outcome?.perform t h).1) := reports.learnt.symm ▸ reports
  -- one question after the other, until an answer ends it
  rcases hd : (isTrue (x.done.call [])).perform t h with ⟨f | _ | _, i⟩
  · exact report (.broken (.done ⟨f, by rw [hd], rfl⟩))
  · exact report (.undone hd)
  have said : x.Says t h true i := hd
  rcases hc : (isTrue (x.task.callMethod "cancelled" [])).perform t i with ⟨f | _ | _, j⟩
  · exact report (.broken (.cancelled said ⟨f, by rw [hc], rfl⟩))
  · have uncancelled : x.Admits t h false j := ⟨i, said, hc⟩
    rcases hr : x.raised?.perform t j with ⟨f | _ | err, k⟩
    · exact report (.broken (.exception uncancelled ⟨f, by rw [hr], rfl⟩))
    · have unraised : x.Raises t h none k := ⟨j, uncancelled, hr⟩
      rcases hv : (x.task.callMethod "result" []).perform t k with ⟨f | v, n⟩
      · exact report (.broken (.result unraised ⟨f, by rw [hv], rfl⟩))
      · exact report (.returned unraised hv)
    · exact report (.raised ⟨j, uncancelled, hr⟩)
  · exact report (.cancelled ⟨i, said, hc⟩)

theorem reports_iff : x.Reports t h o ↔ Tracked.learnt (x.outcome?.perform t h).1 = o :=
  ⟨Reports.learnt, fun he => he ▸ x.reports t h⟩

theorem Says.alive {b : Bool} (said : x.Says t h b k) (alive : h.lock.alive = true) :
    k.lock.alive = true := by
  have := Op.alive_perform (isTrue (x.done.call [])) t alive
  rwa [said] at this

theorem Admits.alive {b : Bool} (admits : x.Admits t h b k) (alive : h.lock.alive = true) :
    k.lock.alive = true := by
  obtain ⟨i, said, hc⟩ := admits
  have := Op.alive_perform (isTrue (x.task.callMethod "cancelled" [])) t (said.alive alive)
  rwa [hc] at this

theorem raised?_proper (x : Tracked) : Proper x.raised? := by
  refine .bind (x.task.callMethod_proper _ _) fun e => Handle.spend_proper ?_
  simp only [translated?]
  split
  · exact .pure _
  · exact .bind (PythonError.ofException_certain e).proper fun _ => .pure _

theorem Raises.alive {raised : Option PythonError} (raises : x.Raises t h raised k)
    (alive : h.lock.alive = true) : k.lock.alive = true := by
  obtain ⟨i, uncancelled, hr⟩ := raises
  have := Op.alive_perform x.raised? t (uncancelled.alive alive)
  rwa [hr] at this

/-- A task that is broken is not taken for a cancelled one. -/
theorem Breaks.ne_canceled (breaks : x.Breaks t h e) (alive : h.lock.alive = true) :
    e ≠ .canceled := by
  cases breaks with
  | done fails => exact (isTrue_proper (Handle.call_proper _ _)).fails alive fails
  | cancelled said fails =>
    exact (isTrue_proper (Handle.callMethod_proper _ _ _)).fails (said.alive alive) fails
  | exception uncancelled fails => exact x.raised?_proper.fails (uncancelled.alive alive) fails
  | result unraised fails =>
    exact (Handle.callMethod_proper _ _ _).fails (unraised.alive alive) fails

/-- That a task has been cancelled is learnt from nothing but its own word. -/
theorem Reports.cancelled_iff (alive : h.lock.alive = true) :
    x.Reports t h (some (.error .canceled)) ↔ ∃ k, x.Admits t h true k := by
  refine ⟨fun reports => ?_, fun ⟨_, admits⟩ => .cancelled admits⟩
  cases reports with
  | cancelled admits => exact ⟨_, admits⟩
  | broken breaks => exact absurd rfl (breaks.ne_canceled alive)

end Tracked

/-! ## What a future conveys -/

namespace Tracked

variable {x : Tracked} {f : Future}

/-- What a driver learns from a task, by how the future stands that the task is. -/
inductive Conveys (x : Tracked) (t : ThreadId) (h : Host) :
    FutureOutcome → Option Outcome → Prop where
  | pending : Conveys x t h .pending none
  | cancelled : Conveys x t h .cancelled (some (.error .canceled))
  /-- the very object that the task returned -/
  | returned (v : Ref) : Conveys x t h (.result v) (some (.ok (Handle.adopt v)))
  /-- the exception that the task raised, translated -/
  | raised (e : Ref) (err : PythonError)
      (translated : e ≠ Ref.none → ∃ k, h.Becomes k ∧
        ((PythonError.ofException (Handle.adopt e)).perform t k).1 = .ok err) :
      Conveys x t h (.failed e) (some (.error (.python err)))
  /-- translating the exception used up the stack -/
  | spent (e : Ref) (overflow : (x.outcome?.perform t h).1 = .error .overflow) :
      Conveys x t h (.failed e) (some (.error .eventLoopClosed))

theorem conveys (live : x.Live) {t : ThreadId} {h : Host} (alive : h.lock.alive = true)
    (answers : h.memory.Answers x.task.ref x.done.ref)
    (future : h.memory.GenuineFuture x.task.ref f) :
    x.Conveys t h f.outcome (Tracked.learnt (x.outcome?.perform t h).1) := by
  cases ho : f.outcome with
  | pending =>
    obtain ⟨k, hk, -⟩ := outcome?_pending live answers future (by rw [ho]; rfl) t h alive rfl
    rw [hk]
    exact .pending
  | cancelled =>
    obtain ⟨n, -, returns⟩ := outcome?_cancelled live answers future ho
    obtain ⟨k, hk, -⟩ := returns t h alive rfl
    rw [hk]
    exact .cancelled
  | result v =>
    obtain ⟨n, -, returns⟩ := outcome?_result live answers future ho
    obtain ⟨k, hk, -⟩ := returns t h alive rfl
    rw [hk]
    exact .returned v
  | failed e =>
    rcases outcome?_failed live answers future ho t alive rfl with spent | ⟨err, told, same⟩
    · rw [spent]
      exact .spent e spent
    · rw [told]
      exact .raised e err same

end Tracked

end Bridge

end EmbeddedPython
