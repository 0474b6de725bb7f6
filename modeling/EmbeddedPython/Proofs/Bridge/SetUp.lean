import EmbeddedPython.Proofs.Bridge.Report

/-
  Tasks that cannot be set up

  To set up a task its coroutine is wrapped, a callback is added, and the
  method is fetched that says whether the task is done. Any of this can raise.
  A task that there is by then is asked to cancel, once, and let go of; whatever
  comes of asking, the set-up fails by what the step has raised.
-/

namespace EmbeddedPython

namespace Bridge

open Op

/-! ## The parts of a set-up -/

namespace DriverBindings

/-- The call that wraps a coroutine. -/
def wrap (b : DriverBindings) (coroutine : Handle) : Op Handle :=
  b.ensureFuture.callWithKeywords [coroutine] ["loop"] [b.object] none

/-- Adds the callback, and fetches the method that says whether the task is done. -/
def watch (b : DriverBindings) (task : Handle) : Op Handle := do
  (← task.callMethod "add_done_callback" [b.stopOnDone]).drop
  task.getAttr "done"

end DriverBindings

/-- Asks a task to cancel and lets go of it. -/
def cleanUp (task : Handle) : Op Unit := do
  match (← Op.attempt (task.callMethod "cancel" [])) with
  | .ok result => result.drop
  | .error _ => Op.note (.warning "failed to cancel partially started task")
  task.drop

/-- Which step of a set-up fails, with which error, and the task that has been made by then. -/
inductive StepFails (b : DriverBindings) (coroutine : Handle) (t : ThreadId) (h : Host) :
    Option Handle → Error → Host → Prop
  /-- the coroutine cannot be wrapped -/
  | wrap {e : Error} {k : Host} (raises : (b.wrap coroutine).perform t h = (.error (.error e), k)) :
      StepFails b coroutine t h none e k
  /-- the callback cannot be added -/
  | add {task : Handle} {e : Error} {k m : Host}
      (made : (b.wrap coroutine).perform t h = (.ok task, k))
      (raises : (task.callMethod "add_done_callback" [b.stopOnDone]).perform t k =
        (.error (.error e), m)) : StepFails b coroutine t h (some task) e m
  /-- the method cannot be fetched that says whether the task is done -/
  | fetch {task result : Handle} {e : Error} {k j m : Host}
      (made : (b.wrap coroutine).perform t h = (.ok task, k))
      (added : (task.callMethod "add_done_callback" [b.stopOnDone]).perform t k = (.ok result, j))
      (raises : (task.getAttr "done").perform t (result.drop.perform t j).2 =
        (.error (.error e), m)) : StepFails b coroutine t h (some task) e m

/-- What is done about the task of a set-up that has failed. -/
inductive CleansUp (t : ThreadId) : Option Handle → Host → Host → Prop
  | nothing (h : Host) : CleansUp t none h h
  /-- the task takes the request to cancel -/
  | taken {task result : Handle} {h k : Host}
      (answers : (task.callMethod "cancel" []).perform t h = (.ok result, k)) :
      CleansUp t (some task) h (task.drop.perform t (result.drop.perform t k).2).2
  /-- it cannot be asked to cancel, which is only logged -/
  | logged {task : Handle} {e : Error} {h k : Host}
      (raises : (task.callMethod "cancel" []).perform t h = (.error (.error e), k)) :
      CleansUp t (some task) h (task.drop.perform t
        { k with log := k.log ++ [.warning "failed to cancel partially started task"] }).2

variable {b : DriverBindings} {c task : Handle} {t : ThreadId} {h k m : Host} {e : Error}

theorem startTask_eq (b : DriverBindings) (c : Handle) : startTask b c = b.wrap c >>= fun task =>
    Op.attempt (b.watch task) >>= fun
      | .ok done => pure (task, done)
      | .error e => cleanUp task >>= fun _ => Op.fail e := by
  refine congrArg (b.wrap c >>= ·) (funext fun task => congrArg (Op.attempt (b.watch task) >>= ·)
    (funext fun prepared => ?_))
  cases prepared with
  | ok done => rfl
  | error e =>
    simp only [cleanUp, bind_assoc]
    refine congrArg (Op.attempt (task.callMethod "cancel" []) >>= ·) (funext fun cancelled => ?_)
    cases cancelled <;> simp only [bind_assoc]

theorem drop_perform (x : Handle) (alive : h.lock.alive = true) :
    x.drop.perform t h = (.ok (), (x.drop.perform t h).2) := by
  obtain ⟨_, dropped⟩ := x.drop_safe t h alive
  exact Prod.ext dropped rfl

/-- A proper operation ends with a value or an error, unless it uses up the stack. -/
theorem ends_of_proper {α : Type} {op : Op α} (proper : Proper op) (t : ThreadId)
    (alive : h.lock.alive = true) : (∃ k, op.perform t h = (.error .overflow, k)) ∨
      (∃ e k, op.perform t h = (.error (.error e), k)) ∨ ∃ a k, op.perform t h = (.ok a, k) := by
  have isProper := proper t h alive
  generalize op.perform t h = r at isProper
  obtain ⟨(e | text | _) | a, k⟩ := r
  · exact .inr (.inl ⟨e, k, rfl⟩)
  · exact (isProper _ rfl).elim
  · exact .inl ⟨k, rfl⟩
  · exact .inr (.inr ⟨a, k, rfl⟩)

theorem alive_of_perform {α : Type} {op : Op α} {r : Except Failure α}
    (alive : h.lock.alive = true) (performed : op.perform t h = (r, k)) : k.lock.alive = true := by
  have still := alive_perform op t alive
  rwa [performed] at still

/-! ## What a set-up fails by -/

theorem wrap_proper (b : DriverBindings) (c : Handle) : Proper (b.wrap c) :=
  Handle.callWithKeywords_proper _ _ _ _ _

theorem watch_proper (b : DriverBindings) (task : Handle) : Proper (b.watch task) :=
  .bind (task.callMethod_proper _ _) fun _ => .bind (Handle.drop_proper _) fun _ =>
    task.getAttr_proper _

/-- A task that cannot be watched is one that a step fails for. -/
theorem StepFails.of_watch (alive : k.lock.alive = true)
    (made : (b.wrap c).perform t h = (.ok task, k))
    (raises : (b.watch task).perform t k = (.error (.error e), m)) :
    StepFails b c t h (some task) e m := by
  rw [DriverBindings.watch, perform_bind] at raises
  generalize hr : (task.callMethod "add_done_callback" [b.stopOnDone]).perform t k = r at raises
  obtain ⟨f | result, j⟩ := r
  · cases raises
    exact .add made hr
  · dsimp only at raises
    rw [perform_bind, drop_perform result (alive_of_perform alive hr)] at raises
    exact .fetch made hr raises

/-- Cleaning up comes to an end, unless it uses up the stack. -/
theorem cleanUp_perform (task : Handle) (t : ThreadId) (alive : h.lock.alive = true) :
    (∃ k, (cleanUp task).perform t h = (.error .overflow, k)) ∨
      ∃ k, (cleanUp task).perform t h = (.ok (), k) ∧ CleansUp t (some task) h k := by
  rcases ends_of_proper (task.callMethod_proper "cancel" []) t alive with
    ⟨k, spent⟩ | ⟨e, k, raises⟩ | ⟨result, k, answers⟩
  · refine .inl ⟨k, ?_⟩
    rw [cleanUp, perform_bind, perform_attempt, spent]
  · have alive' := alive_of_perform alive raises
    refine .inr ⟨_, ?_, .logged raises⟩
    rw [cleanUp, perform_bind, perform_attempt, raises]
    dsimp only
    exact drop_perform task alive'
  · have alive' := alive_of_perform alive answers
    refine .inr ⟨_, ?_, .taken answers⟩
    rw [cleanUp, perform_bind, perform_attempt, answers]
    dsimp only
    rw [perform_bind, drop_perform result alive']
    exact drop_perform task (alive_perform result.drop t alive')

/-- A set-up fails by what a step raises. -/
theorem startTask_error (alive : h.lock.alive = true) {f : Failure}
    (failed : (startTask b c).perform t h = (.error f, m)) :
    f = .overflow ∨ ∃ made e k, f = .error e ∧ StepFails b c t h made e k ∧ CleansUp t made k m := by
  rw [startTask_eq, perform_bind] at failed
  rcases ends_of_proper (wrap_proper b c) t alive with ⟨k, spent⟩ | ⟨e, k, raises⟩ | ⟨task, k, made⟩
  · rw [spent] at failed
    cases failed
    exact .inl rfl
  · rw [raises] at failed
    cases failed
    exact .inr ⟨none, e, _, rfl, .wrap raises, .nothing _⟩
  rw [made] at failed
  dsimp only at failed
  have alive' := alive_of_perform alive made
  rw [perform_bind] at failed
  rcases ends_of_proper (watch_proper b task) t alive' with ⟨j, spent⟩ | ⟨e, j, raises⟩ | ⟨done, j, watched⟩
  · rw [perform_attempt, spent] at failed
    cases failed
    exact .inl rfl
  · rw [perform_attempt, raises] at failed
    dsimp only at failed
    rw [perform_bind] at failed
    rcases cleanUp_perform task t (alive_of_perform alive' raises) with ⟨i, spent⟩ | ⟨i, cleaned, cleans⟩
    · rw [spent] at failed
      cases failed
      exact .inl rfl
    · rw [cleaned] at failed
      cases failed
      exact .inr ⟨some task, e, j, rfl, .of_watch alive' made raises, cleans⟩
  · rw [perform_attempt, watched] at failed
    cases failed

end Bridge

end EmbeddedPython
