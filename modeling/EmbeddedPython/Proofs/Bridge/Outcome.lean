import EmbeddedPython.Bridge.Driver
import EmbeddedPython.Proofs.Asyncio.Notice
import EmbeddedPython.Proofs.Host.Failing
import EmbeddedPython.Proofs.Host.Returning

/-
  What a driver learns from a task

  A driver asks a task whether it is done, whether it has been cancelled, for
  its exception and for its result, in this order. A future that asyncio has made
  answers by its state, and its state decides what the driver learns. Any other
  object answers what it likes, and the driver believes it.
-/

namespace EmbeddedPython

open Bridge

namespace Memory

/-- Whether a method is the one that says whether a task is done, as long as the task is a future
as asyncio makes them. -/
structure Answers (m : Memory) (task done : Ref) : Prop where
  made : m.Has task
  method : ∀ f, m.GenuineFuture task f →
    ∃ o, (o = .future ∨ o = .task) ∧ m.valueOf done = .nativeMethod o "done" task

theorem Answers.retains {m n : Memory} {task done : Ref} (h : m.Answers task done)
    (hr : m.Retains n) : n.Answers task done where
  made := hr.has h.made
  method g hg := by
    obtain ⟨f, hf, -⟩ := hr.genuineFuture h.made hg
    obtain ⟨o, ho, hd⟩ := h.method f hf
    exact ⟨o, ho, hr.method hd⟩

end Memory

/-! ## The questions to a future -/

namespace Handle

open Op

variable {m : Memory} {x : Handle} {f : Future} {name : String} {v : Ref}

/-- A method of a future is read and called. -/
theorem query_reads (future : m.GenuineFuture x.ref f) (hn : name ∈ Eval.futureQueries) :
    ∃ (o : Builtin) (g : Ref) (n : Memory), (o = .future ∨ o = .task) ∧ m.Adds n ∧
      (Eval.getAttr Machine.top x.ref name).run m = (.ok g, n) ∧
      n.valueOf g = .nativeMethod o name x.ref ∧ n.valueOf x.ref = .future f := by
  obtain ⟨o, ho, read⟩ := Eval.getAttr_future Machine.top future hn
  obtain ⟨g, n, made, adds, bound⟩ := Eval.make_run .nativeFunction (.nativeMethod o name x.ref) m
  exact ⟨o, g, n, ho, adds, read.trans made, bound, adds.valueOf future.value nofun⟩

/-- A question that a future answers without changing anything. -/
theorem query_returns (hx : x.disposed = false) (future : m.GenuineFuture x.ref f)
    (hn : name ∈ Eval.futureQueries) (plain : terminated name = .ok name)
    (answer : ∀ {n : Memory} {g : Ref} {o : Builtin}, (o = .future ∨ o = .task) →
      n.valueOf g = .nativeMethod o name x.ref → n.valueOf x.ref = .future f →
      (Eval.callObject (machine 999) g [] []).run n = (.ok v, n)) :
    ∃ n, m.Adds n ∧ Returns (x.callMethod name []) m (adopt v) n := by
  obtain ⟨o, g, n, ho, adds, read, bound, value⟩ := query_reads future hn
  exact ⟨n, adds, callMethod_returns hx plain read (answer ho bound value)⟩

end Handle

namespace Bridge

open Op

/-- Whether the handles of a task have not been disposed of. -/
structure Tracked.Live (x : Tracked) : Prop where
  task : x.task.disposed = false
  done : x.done.disposed = false

theorem isTrue_returns {call : Op Handle} {m n : Memory} {b : Bool}
    (h : Returns call m (Handle.adopt (Ref.ofBool b)) n) : Returns (isTrue call) m b n :=
  h.bind (Handle.spend_returns (Handle.isTruthy_returns b n))

namespace Tracked

variable {x : Tracked} {m : Memory} {f : Future}

/-- An exception, translated, unless there is none. -/
def translated? (e : Handle) : Op (Option PythonError) := do
  if e.isNone then pure none
  else do pure (some (← PythonError.ofException e))

/-- The exception of a task that is done, translated, unless there is none. -/
def raised? (x : Tracked) : Op (Option PythonError) := do
  Handle.spend (← x.task.callMethod "exception" []) translated?

/-- What a task came to that is done and has not been cancelled. -/
def concluded (x : Tracked) (raised : Option PythonError) : Op (Option Outcome) :=
  match raised with
  | some e => pure (some (.error (.python e)))
  | none => do pure (some (← Op.attempt (x.task.callMethod "result" [])))

theorem outcome?_eq (x : Tracked) : x.outcome? = (do
    if !(← isTrue (x.done.call [])) then pure none
    else if ← isTrue (x.task.callMethod "cancelled" []) then pure (some (.error .canceled))
    else do x.concluded (← x.raised?)) := by
  simp only [outcome?, raised?, concluded, bind_assoc]
  rfl

/-- A future says by its `done` whether it has an outcome. -/
theorem done_returns (live : x.Live) (answers : m.Answers x.task.ref x.done.ref)
    (future : m.GenuineFuture x.task.ref f) :
    Returns (isTrue (x.done.call [])) m f.outcome.isDone m := by
  obtain ⟨o, ho, bound⟩ := answers.method f future
  exact isTrue_returns (Handle.call_returns live.done
    (Eval.call_done (machine 999) ho bound future.value))

theorem cancelled_returns (live : x.Live) (future : m.GenuineFuture x.task.ref f) :
    ∃ n, m.Adds n ∧
      Returns (isTrue (x.task.callMethod "cancelled" [])) m (f.outcome == .cancelled) n := by
  obtain ⟨n, adds, hn⟩ := Handle.query_returns live.task future (by decide) rfl
    fun ho bound value => Eval.call_cancelled (machine 999) ho bound value
  exact ⟨n, adds, isTrue_returns hn⟩

theorem exception_returns (live : x.Live) (future : m.GenuineFuture x.task.ref f)
    (done : f.outcome.isDone = true) (uncancelled : f.outcome ≠ .cancelled) :
    ∃ n, m.Adds n ∧ Returns (x.task.callMethod "exception" []) m
      (Handle.adopt (Eval.raisedOf f.outcome)) n :=
  Handle.query_returns live.task future (by decide) rfl
    fun ho bound value => Eval.call_exception (machine 999) ho bound value done uncancelled

/-- Nothing is learnt from a future without an outcome. -/
theorem outcome?_pending (live : x.Live) (answers : m.Answers x.task.ref x.done.ref)
    (future : m.GenuineFuture x.task.ref f) (pending : f.outcome.isDone = false) :
    Returns x.outcome? m none m := by
  have done := done_returns live answers future
  rw [pending] at done
  rw [outcome?_eq]
  exact done.bind (.pure none m)

/-- A future that is done is asked whether it has been cancelled. -/
theorem outcome?_done {o : Option Outcome} {n k : Memory} (live : x.Live)
    (answers : m.Answers x.task.ref x.done.ref) (future : m.GenuineFuture x.task.ref f)
    (done : f.outcome.isDone = true)
    (cancelled : Returns (isTrue (x.task.callMethod "cancelled" [])) m
      (f.outcome == .cancelled) n)
    (rest : Returns (if f.outcome == .cancelled then pure (some (.error .canceled))
      else do x.concluded (← x.raised?)) n o k) : Returns x.outcome? m o k := by
  have said := done_returns live answers future
  rw [done] at said
  rw [outcome?_eq]
  exact said.bind (cancelled.bind rest)

theorem outcome?_cancelled (live : x.Live) (answers : m.Answers x.task.ref x.done.ref)
    (future : m.GenuineFuture x.task.ref f) (h : f.outcome = .cancelled) :
    ∃ n, m.Adds n ∧ Returns x.outcome? m (some (.error .canceled)) n := by
  obtain ⟨n, adds, cancelled⟩ := cancelled_returns live future
  refine ⟨n, adds, outcome?_done live answers future (by rw [h]; rfl) cancelled ?_⟩
  rw [h]
  exact .pure _ n

theorem outcome?_result {v : Ref} (live : x.Live) (answers : m.Answers x.task.ref x.done.ref)
    (future : m.GenuineFuture x.task.ref f) (h : f.outcome = .result v) :
    ∃ n, m.Adds n ∧ Returns x.outcome? m (some (.ok (Handle.adopt v))) n := by
  have done : f.outcome.isDone = true := by rw [h]; rfl
  have uncancelled : f.outcome ≠ .cancelled := by rw [h]; nofun
  obtain ⟨n, mn, cancelled⟩ := cancelled_returns live future
  obtain ⟨k, nk, exception⟩ := exception_returns live (future.adds mn) done uncancelled
  obtain ⟨i, ki, result⟩ := Handle.query_returns live.task ((future.adds mn).adds nk) (by decide) rfl
    fun ho bound value => Eval.call_result (machine 999) ho bound value h
  refine ⟨i, (mn.trans nk).trans ki, outcome?_done live answers future done cancelled ?_⟩
  have raised : Returns x.raised? n none k := by
    rw [h] at exception
    exact exception.bind (Handle.spend_returns (.pure none k))
  rw [h]
  exact raised.bind (result.attempt.bind (.pure _ i))

/-- What a task has raised is translated, unless that uses up the stack. -/
theorem translated?_perform {e : Ref} (there : e ≠ Ref.none) (t : ThreadId) {h : Host}
    (alive : h.lock.alive = true) :
    (((Handle.adopt e).spend translated?).perform t h).1 = .error .overflow ∨
      ∃ err, (((Handle.adopt e).spend translated?).perform t h).1 = .ok (some err) ∧
        ((PythonError.ofException (Handle.adopt e)).perform t h).1 = .ok err := by
  have certain := PythonError.ofException_certain (Handle.adopt e) t h alive
  have some? : (Handle.adopt e).isNone = false := beq_false_of_ne there
  have result : (((Handle.adopt e).spend translated?).perform t h).1 = ((do
      pure (some (← PythonError.ofException (Handle.adopt e)))).perform t h).1 := by
    refine (ensuring_result _ (Handle.drop_safe _) t alive).trans ?_
    simp only [translated?, some?]
    rfl
  rw [result, perform_bind]
  generalize (PythonError.ofException (Handle.adopt e)).perform t h = b at certain ⊢
  obtain ⟨f | err, k⟩ := b
  · refine .inl (Classical.byContradiction fun other => ?_)
    obtain ⟨_, ha⟩ := certain fun hf => other (congrArg _ (Except.error.inj hf))
    cases ha
  · exact .inr ⟨err, rfl, rfl⟩

/-- A future that has raised something raises it again when it is asked for its result. -/
theorem concluded_raises {e : Ref} (live : x.Live) (future : m.GenuineFuture x.task.ref f)
    (failed : f.outcome = .failed e) (t : ThreadId) {h : Host} (alive : h.lock.alive = true)
    (hm : h.memory = m) : ((x.concluded none).perform t h).1 = .error .overflow ∨
      ∃ err, ((x.concluded none).perform t h).1 = .ok (some (.error (.python err))) := by
  obtain ⟨o, g, n, ho, adds, read, bound, value⟩ :=
    Handle.query_reads future (show "result" ∈ Eval.futureQueries by decide)
  have raises := Eval.call_result_failed (machine 999) ho bound value failed
  obtain ⟨k, hk, kn, alive', -⟩ := (Handle.getAttr_returns live.task rfl read).bind_perform
    (fun f => f.spend fun f => f.call []) t alive hm
  have result : ((x.task.callMethod "result" []).perform t h).1 = .error .overflow ∨
      ∃ err, ((x.task.callMethod "result" []).perform t h).1 = .error (.error (.python err)) := by
    rw [Handle.callMethod, hk, Handle.spend, ensuring_result _ (Handle.drop_safe _) t alive',
      Handle.call, Handle.callThrough, Handle.live_run rfl, pure_bind]
    obtain ⟨taken, lock, log, ht, -, hr⟩ :=
      guarded_run (request [g] (Machine.top.call g [] [])) t alive'
    rw [show (Handle.adopt g).ref = g from rfl, hr]
    exact request_raises [g] raises t ((congrArg Option.isSome ht).trans alive') kn
  simp only [concluded, perform_bind, perform_attempt]
  generalize (x.task.callMethod "result" []).perform t h = b at result ⊢
  obtain ⟨_, i⟩ := b
  rcases result with rfl | ⟨err, rfl⟩
  · exact .inl rfl
  · exact .inr ⟨err, rfl⟩

/-- A future that is done and has not been cancelled is asked for more. -/
theorem outcome?_goes_on (live : x.Live) (answers : m.Answers x.task.ref x.done.ref)
    (future : m.GenuineFuture x.task.ref f) (done : f.outcome.isDone = true)
    (uncancelled : f.outcome ≠ .cancelled) (t : ThreadId) {h : Host}
    (alive : h.lock.alive = true) (hm : h.memory = m) :
    ∃ k, x.outcome?.perform t h = (do x.concluded (← x.raised?) : Op _).perform t k ∧
      m.Adds k.memory ∧ k.lock.alive = true ∧ h.Becomes k := by
  obtain ⟨n, adds, cancelled⟩ := cancelled_returns live future
  have said := done_returns live answers future
  rw [done] at said
  rw [show (f.outcome == FutureOutcome.cancelled) = false from beq_false_of_ne uncancelled]
    at cancelled
  rw [outcome?_eq]
  obtain ⟨i, hi, im, alive, becomes⟩ := said.bind_perform _ t alive hm
  obtain ⟨k, hk, kn, alive, becomes'⟩ := cancelled.bind_perform
    (fun c => if c then pure (some (.error .canceled)) else do x.concluded (← x.raised?)) t alive im
  exact ⟨k, hi.trans hk, kn ▸ adds, alive, becomes.trans becomes'⟩

/-- The exception of a future that has raised something is translated. -/
theorem outcome?_failed {e : Ref} (live : x.Live) (answers : m.Answers x.task.ref x.done.ref)
    (future : m.GenuineFuture x.task.ref f) (failed : f.outcome = .failed e) (t : ThreadId)
    {h : Host} (alive : h.lock.alive = true) (hm : h.memory = m) :
    (x.outcome?.perform t h).1 = .error .overflow ∨
      ∃ err, (x.outcome?.perform t h).1 = .ok (some (.error (.python err))) ∧
        (e ≠ Ref.none → ∃ k, h.Becomes k ∧
          ((PythonError.ofException (Handle.adopt e)).perform t k).1 = .ok err) := by
  have done : f.outcome.isDone = true := by rw [failed]; rfl
  have uncancelled : f.outcome ≠ .cancelled := by rw [failed]; nofun
  obtain ⟨i, hi, adds, alive, becomes⟩ :=
    outcome?_goes_on live answers future done uncancelled t alive hm
  obtain ⟨n, more, exception⟩ := exception_returns live (future.adds adds) done uncancelled
  rw [failed] at exception
  rw [hi]
  by_cases there : e = Ref.none
  · -- no exception is none, and asking for the result raises whatever there is
    subst there
    have none? : Returns x.raised? i.memory none n :=
      exception.bind (Handle.spend_returns (.pure none n))
    obtain ⟨k, hk, kn, alive, -⟩ := none?.bind_perform (fun r => x.concluded r) t alive rfl
    rw [hk]
    rcases concluded_raises live ((future.adds adds).adds more) failed t alive kn with
      spent | ⟨err, told⟩
    · exact .inl spent
    · exact .inr ⟨err, told, fun absent => absurd rfl absent⟩
  · obtain ⟨k, hk, -, alive, becomes'⟩ :=
      exception.bind_perform (fun e => e.spend translated?) t alive rfl
    have raised : x.raised?.perform t i = ((Handle.adopt e).spend translated?).perform t k := hk
    have translated := translated?_perform there t alive
    rw [perform_bind, raised]
    generalize ((Handle.adopt e).spend translated?).perform t k = b at translated ⊢
    obtain ⟨r, j⟩ := b
    rcases translated with spent | ⟨err, told, same⟩
    · cases spent
      exact .inl rfl
    · cases told
      exact .inr ⟨err, rfl, fun _ => ⟨k, becomes.trans becomes', same⟩⟩

end Tracked

/-! ## Setting up a task -/

theorem request_live (refs : List Ref) (body : Eval Ref) :
    Yields (fun x => x.disposed = false) (request refs body) :=
  fun _ _ _ _ he => (request_ok he).2

theorem call_live (f : Handle) (arguments : List Handle) :
    Yields (fun x => x.disposed = false) (f.call arguments) := by
  refine .bind fun _ => .guarded ?_
  split
  · exact request_live _ _
  · exact .bind fun _ => request_live _ _
  · exact .bind fun _ => .ensuring (request_live _ _)

theorem callWithKeywords_live (f : Handle) (arguments : List Handle) (names : List String)
    (values : List Handle) (extra : Option Handle) :
    Yields (fun x => x.disposed = false) (f.callWithKeywords arguments names values extra) := by
  simp only [Handle.callWithKeywords, Handle.callWithKeywordsThrough]
  split
  · exact .failure _
  split
  · exact call_live f arguments
  refine .bind fun _ => .guarded (.bind fun _ => .ensuring (.bind fun _ => .ensuring ?_))
  cases extra with
  | some y => exact .bind fun _ => .bind fun _ => .bind fun _ => request_live _ _
  | none => exact .bind fun _ => request_live _ _

/-- A task that has been set up has live handles, and its method says whether it is done. -/
theorem startTask_ok {b : DriverBindings} {coroutine task done : Handle} {t : ThreadId} {h k : Host}
    (he : (startTask b coroutine).perform t h = (.ok (task, done), k)) :
    task.disposed = false ∧ done.disposed = false ∧ k.memory.Answers task.ref done.ref := by
  obtain ⟨task', i, hi, he⟩ := bind_ok he
  obtain ⟨prepared, j, hj, he⟩ := bind_ok he
  cases prepared with
  | error e =>
    -- what cannot be set up is cancelled, and the operation fails
    obtain ⟨cancelled, l, -, he⟩ := bind_ok he
    cases cancelled <;>
      obtain ⟨_, _, -, he⟩ := bind_ok he <;> obtain ⟨_, _, -, he⟩ := bind_ok he <;> cases he
  | ok d =>
    cases he
    refine ⟨callWithKeywords_live _ _ _ _ _ t h i _ hi, ?_⟩
    obtain ⟨_, n, -, hj⟩ := bind_ok (attempt_ok hj)
    obtain ⟨_, n, -, hj⟩ := bind_ok hj
    obtain ⟨m, read, evolves, live⟩ := Handle.getAttr_ok hj
    refine ⟨live, Memory.Answers.retains ?_ (.of_evolves evolves)⟩
    have made := Eval.has_of_getAttr (by decide) read
    have retains := Memory.Retains.of_evolves ((Eval.getAttr Machine.top task.ref "done").evolves n.memory)
    rw [read] at retains
    refine ⟨retains.has made, fun g hg => ?_⟩
    obtain ⟨f, hf, -⟩ := retains.genuineFuture made hg
    obtain ⟨o, d', m', ho, -, read', bound, -⟩ :=
      Handle.query_reads hf (show "done" ∈ Eval.futureQueries by decide)
    cases read.symm.trans read'
    exact ⟨o, ho, bound⟩

end Bridge

end EmbeddedPython
