import EmbeddedPython.Proofs.Asyncio.Notice
import EmbeddedPython.Proofs.Environment.Turn

/-
  What happens to the memory

  Threads and drivers change the memory by what the interpreter does for them,
  so that it only evolves. A driver does one thing more: it runs its loop, whose
  flag and ready queue it changes by itself. What is kept through both, and
  through the beginning and the end of an interpreter, is kept through any run.
-/

namespace EmbeddedPython

open Activity Bridge

variable {α β : Type}

namespace Process

variable (p : Process)

@[simp] theorem record_host (e : Event) (l : LoopId) (r : Request) :
    (p.record e l r).host = p.host := by
  simp only [record]
  split <;> rfl

@[simp] theorem answer_host (r : Request) (e : Error) : (p.answer r e).host = p.host := by
  simp only [answer]
  split <;> rfl

@[simp] theorem queue_host (l : LoopId) (r : Request) : (p.queue l r).host = p.host := by
  simp [queue, changeLoop]

@[simp] theorem drain_host (l : LoopId) : (p.drain l).host = p.host := by
  simp only [drain]
  split
  · rfl
  · simp [changeLoop]

@[simp] theorem clear_host (l : LoopId) (e : Error) : (p.clear l e).host = p.host := by
  simp only [clear]
  split
  · rfl
  · simp [changeLoop]

@[simp] theorem finish_host (l : LoopId) (n : Nat) (o : Bridge.Outcome) :
    (p.finish l n o).host = p.host := by
  simp only [finish]
  split <;> rfl

end Process

namespace Activity

/-- Whether an activity does nothing to the interpreter and the memory but what the interpreter does
itself. -/
def Evolving (x : Activity α) : Prop := ∀ p : Process, p.host.Becomes (x p).2.host

theorem Idle.evolving {x : Activity α} (h : Idle x) : Evolving x := fun p => (h p).host

namespace Evolving

theorem pure (a : α) : Evolving (Pure.pure a) := fun p => .refl p.host

theorem bind {x : Activity α} {f : α → Activity β} (hx : Evolving x) (hf : ∀ a, Evolving (f a)) :
    Evolving (x >>= f) :=
  fun p => (hx p).trans (hf _ _)

theorem get_bind {f : Process → Activity β} (hf : ∀ p, Evolving (f p)) : Evolving (get >>= f) :=
  fun p => hf p p

/-- A change beside the interpreter. -/
theorem modify {f : Process → Process} (hf : ∀ p, (f p).host = p.host) : Evolving (modify f) := by
  intro p
  show p.host.Becomes (f p).host
  rw [hf]
  exact .refl _

theorem forM {xs : List α} {f : α → Activity Unit} (hf : ∀ a, Evolving (f a)) :
    Evolving (xs.forM f) := by
  induction xs with
  | nil => exact pure ()
  | cons x xs ih => exact bind (hf x) fun _ => ih

end Evolving

theorem tell_eq (t : ThreadId) (op : Op Unit) (p : Process) :
    (tell t op p).2 = { p with host := (op.perform t p.host).2 } := by
  show (ask t op p).2 = _
  simp only [ask]
  rcases op.perform t p.host with ⟨(_ | _ | _) | _, _⟩ <;> rfl

theorem tell_host (t : ThreadId) (op : Op Unit) (p : Process) :
    (tell t op p).2.host = (op.perform t p.host).2 :=
  congrArg Process.host (tell_eq t op p)

theorem tell_evolving (t : ThreadId) (op : Op Unit) : Evolving (tell t op) :=
  (tell_idle t op).evolving

theorem modifyEnvironment_evolving (e : EnvironmentId) (f : Environment → Environment) :
    Evolving (modifyEnvironment e f) := .modify fun _ => rfl

end Activity

namespace Bridge

/-! ## Queues -/

theorem push_evolving (t : ThreadId) (l : LoopId) (r : Request) : Evolving (push t l r) := by
  intro p
  rcases push_cases t l r p with ⟨h, -⟩ | ⟨w, q, q', h, -, hq, hq'⟩
  · rw [h]
    exact .refl _
  · rw [h]
    refine hq.host.trans ?_
    have := hq'.host
    rwa [Process.queue_host] at this

theorem enqueue_evolving (t : ThreadId) (l : LoopId) (r : Request) : Evolving (enqueue t l r) := by
  refine .bind (push_evolving t l r) fun pushed => ?_
  rcases pushed with _ | _ | n
  · exact .pure false
  · exact .pure true
  · exact .bind (wake_idle t n).evolving fun _ => .pure true

theorem discard_evolving (t : ThreadId) (r : Request) (e : Error) : Evolving (discard t r e) :=
  .bind (.modify fun p => p.answer_host r e) fun _ => tell_evolving t _

theorem clearNext_evolving (t : ThreadId) (l : LoopId) (e : Error) :
    Evolving (clearNext t l e) := by
  refine .get_bind fun p => ?_
  split
  · exact .pure ()
  · exact .bind (.modify fun p => p.clear_host l e) fun _ => tell_evolving t _

theorem close_evolving (t : ThreadId) (l : LoopId) (e : Error) : Evolving (close t l e) := by
  refine .get_bind fun p => .bind (.modify fun _ => rfl) fun _ => ?_
  have cleared : Evolving ((p.loop l).requests.forM fun _ => clearNext t l e) :=
    .forM fun _ => clearNext_evolving t l e
  dsimp only
  split
  · exact .bind (tell_evolving t _) fun _ => .bind (tell_evolving t _) fun _ => cleared
  · exact cleared

theorem registerCancel_evolving (t : ThreadId) (token : Cancellation.Token) (c : CancelCall) :
    Evolving (registerCancel t token c) := by
  simp only [registerCancel]
  cases token.signal with
  | none => exact .pure _
  | some i =>
    intro p
    simp only [run_get_bind, run_set_bind]
    obtain ⟨id?, signal⟩ := (p.signals.getD i Cancellation.Signal.fresh).register c []
    let q : Process := { p with signals := p.signals.setIfInBounds i signal }
    cases id? with
    | some id => exact .refl p.host
    | none =>
      exact (Evolving.bind (.bind (enqueue_evolving t c.loop (.cancel c.task)) fun _ => .pure ())
        fun _ => .pure _) q

/-! ## Drivers -/

theorem failAll_evolving (l : LoopId) (e : Error) : Evolving (failAll l e) := by
  refine .bind (note_idle _).evolving fun _ => .get_bind fun p => ?_
  refine .bind (.forM fun x => ?_) fun _ => .bind (.modify fun _ => rfl) fun _ => ?_
  · exact .bind (giveUp_idle _).evolving fun _ => .modify fun p => p.finish_host l 0 _
  · exact .forM fun x => tell_evolving _ _

theorem beginIteration_evolving (l : LoopId) : Evolving (beginIteration l) := by
  refine .get_bind fun p => ?_
  split
  · split
    · exact .bind (.modify fun _ => rfl) fun _ => .pure _
    · exact .pure _
  · exact .pure _

theorem cancelOne_evolving (l : LoopId) (id : TaskId) : Evolving (cancelOne l id) := by
  refine .get_bind fun p => ?_
  split
  · exact .pure ()
  · exact .bind (cancelTask_idle _ _).evolving fun _ => .modify fun _ => rfl

theorem stopAll_evolving (l : LoopId) : Evolving (stopAll l) := by
  refine .get_bind fun p => ?_
  cases hs : (p.loop l).driver.stopping with
  | true =>
    simp only [hs]
    exact .pure ()
  | false =>
    simp only [hs]
    refine .bind (.modify fun _ => rfl) fun _ => .bind (.forM fun x => ?_) fun _ => ?_
    · exact (cancelTask_idle _ x).evolving
    · exact .modify fun _ => rfl

theorem drainOne_evolving (l : LoopId) : Evolving (drainOne l) := by
  refine .get_bind fun p => ?_
  split
  · exact .modify fun _ => rfl
  · refine .bind (.modify fun p => p.drain_host l) fun _ => ?_
    split
    · exact .pure ()
    · exact cancelOne_evolving l _
    · exact stopAll_evolving l

theorem refuse_evolving (l : LoopId) (coroutine : Handle) (i : PromiseId) (e : Error) :
    Evolving (refuse l coroutine i e) :=
  .bind (.modify fun _ => rfl) fun _ => tell_evolving _ _

theorem startNext_evolving (l : LoopId) (coroutine : Handle) (token : Cancellation.Token)
    (i : PromiseId) : Evolving (startNext l coroutine token i) := by
  intro p
  simp only [startNext, run_get_bind]
  split
  · exact refuse_evolving l coroutine i _ p
  · rw [run_set_bind]
    let q : Process := { p with nextTask := p.nextTask + 1 }
    refine (Evolving.bind (ask_idle (Process.driverThread l) _).evolving fun started => ?_) q
    rcases started with e | ⟨task, done⟩
    · exact refuse_evolving l coroutine i e
    · exact .modify fun _ => rfl

theorem registerNext_evolving (l : LoopId) (coroutine : Handle) (token : Cancellation.Token)
    (x : Tracked) : Evolving (registerNext l coroutine token x) :=
  .bind (registerCancel_evolving _ token _) fun _ => .modify fun _ => rfl

theorem acceptNext_evolving (l : LoopId) (coroutine : Handle) (x : Tracked) :
    Evolving (acceptNext l coroutine x) := by
  refine .get_bind fun p => .bind (.modify fun _ => rfl) fun _ => ?_
  cases (p.promise x.promise).awaited with
  | true => exact tell_evolving _ _
  | false => exact .bind (cancelOne_evolving l x.id) fun _ => tell_evolving _ _

theorem settleTask_evolving (l : LoopId) (n : Nat) (x : Tracked) (o : Outcome) :
    Evolving (settleTask l n x o) :=
  .bind (giveUp_idle _).evolving fun _ => .bind (keepOutcome_idle _ _ o).evolving fun kept =>
    .bind (.modify fun p => p.finish_host l n kept) fun _ => tell_evolving _ _

theorem concludeNext_evolving (l : LoopId) (n : Nat) : Evolving (concludeNext l n) := by
  intro p
  obtain ⟨-, he⟩ | ⟨x, -, came⟩ := concludeNext_cases p l n
  · rw [he]
    exact .refl _
  · refine .trans (ask_idle (Process.driverThread l) x.outcome? p).host ?_
    obtain ⟨-, he⟩ | ⟨o, -, he⟩ := came <;> rw [he]
    · exact .refl _
    · exact settleTask_evolving l n x o _

theorem leave_evolving (l : LoopId) : Evolving (leave l) :=
  .bind (close_evolving _ l _) fun _ => .get_bind fun _ => .bind (tell_evolving _ _) fun _ =>
    .modify fun _ => rfl

/-! ## Loops -/

theorem abandon_evolving (t : ThreadId) (i : PromiseId) : Evolving (abandon t i) := by
  refine .bind (.modify fun _ => rfl) fun _ => .get_bind fun p => ?_
  split
  · exact tell_evolving t _
  · exact .pure ()

theorem disown_evolving (l : LoopId) : Evolving (disown l) :=
  .bind (.modify fun _ => rfl) fun _ => .get_bind fun _ => .pure _

theorem markDisposed_evolving (l : LoopId) : Evolving (markDisposed l) := by
  refine .get_bind fun p => ?_
  split
  · exact .pure false
  · exact .bind (.modify fun _ => rfl) fun _ => .pure _

theorem openLoop_evolving (t : ThreadId) (e : EnvironmentId) : Evolving (openLoop t e) := by
  refine .get_bind fun p => ?_
  dsimp only
  split
  · exact .pure _
  · refine .bind (ask_idle t _).evolving fun made => ?_
    rcases made with error | ⟨object, notifier, bindings⟩
    · exact .pure _
    · exact .get_bind fun q => .bind (.modify fun _ => rfl) fun _ =>
        .bind (tell_evolving _ _) fun _ => .pure _

theorem defaultLoop_evolving (t : ThreadId) (e : EnvironmentId) : Evolving (defaultLoop t e) := by
  refine .get_bind fun p => ?_
  split
  · exact .pure _
  · refine .bind (openLoop_evolving t e) fun opened => ?_
    cases opened with
    | error _ => exact .pure _
    | ok l => exact .bind (modifyEnvironment_evolving e _) fun _ => .pure _

theorem prepare_evolving (t : ThreadId) (l : LoopId) (awaitable : Handle)
    (token : Cancellation.Token) : Evolving (prepare t l awaitable token) := by
  intro p
  rcases prepare_cases t l awaitable token p with ⟨e, q, h, hq⟩ | ⟨c, q, hq, h⟩ <;>
    rw [h] <;> exact hq.host

theorem endDispose_evolving (t : ThreadId) (l : LoopId) : Evolving (endDispose t l) := by
  refine .get_bind fun p => ?_
  dsimp only
  split
  · exact .bind (close_evolving t l _) fun _ => (ask_idle t _).evolving
  · exact .bind (note_idle _).evolving fun _ => .pure _

theorem disposal_evolving (t : ThreadId) (l : LoopId) (dropped : Bool) :
    Evolving (disposal t l dropped) := by
  refine .bind (markDisposed_evolving l) fun marked => ?_
  cases marked with
  | true => exact .pure _
  | false =>
    cases dropped with
    | true => exact .bind (releaseLoop_idle t l).evolving fun _ => .pure _
    | false => exact .pure _

end Bridge

namespace Activity

/-! ## Environments -/

theorem closing_evolving (t : ThreadId) (e : EnvironmentId) : Evolving (closing t e) := by
  have marked : Evolving (markClosed e) := by
    refine .get_bind fun p => ?_
    dsimp only
    split
    · exact .pure none
    · exact .bind (modifyEnvironment_evolving e _) fun _ => .pure _
  refine .bind marked fun found => ?_
  rcases found with _ | _ | l
  · exact .pure _
  · exact .pure _
  · refine .bind (markDisposed_evolving l) fun disposed => ?_
    cases disposed <;> exact .pure _

theorem resolve_evolving (t : ThreadId) (e : EnvironmentId) : Evolving (resolve t e) := by
  refine .get_bind fun p => .bind (ask_idle t _).evolving fun r => ?_
  cases r with
  | ok b => exact .bind (modifyEnvironment_evolving e _) fun _ => .pure _
  | error _ => exact .pure _

theorem dropBindings_evolving (t : ThreadId) (e : EnvironmentId) :
    Evolving (dropBindings t e) := by
  refine .get_bind fun p => ?_
  split
  · exact .pure ()
  · exact .bind (modifyEnvironment_evolving e _) fun _ => tell_evolving t _

theorem settleClose_evolving (t : ThreadId) (e : EnvironmentId) (loop : Option LoopId)
    (waited : Bool) : Evolving (settleClose t e loop waited) := by
  have ended : Evolving (endDefault t loop waited) := by
    rcases loop with _ | l
    · exact .pure _
    · cases waited with
      | true => exact endDispose_evolving t l
      | false => exact .pure _
  have released : Evolving (releaseDefault t loop) := by
    rcases loop with _ | l
    · exact .pure ()
    · refine .bind (disown_evolving l) fun last => ?_
      cases last with
      | true => exact (releaseLoop_idle t l).evolving
      | false => exact .pure ()
  refine .bind ended fun disposed => .bind released fun _ => .bind (dropBindings_evolving t e) fun _ =>
    .get_bind fun p => .bind (modifyEnvironment_evolving e _) fun _ => ?_
  exact (decideClose_idle _ disposed).evolving

end Activity

/-! ## Actions -/

/-- Whether an action begins or ends an interpreter, or is a move of a driver. -/
def Action.IsPlain : Action → Prop
  | start _ _ | drive _ | proceed _ => False
  | _ => True

theorem Action.evolving {a : Action} (h : a.IsPlain) : Evolving a.run := by
  cases a with
  | operate t op => exact .bind (tell_evolving t op) fun _ => .pure _
  | newSource => exact .bind newSource_idle.evolving fun _ => .pure _
  | cancel t i => exact .bind (raiseSignal_idle i).evolving fun _ => .pure _
  | submit t l awaitable token =>
    refine .bind (prepare_evolving t l awaitable token) fun r => ?_
    cases r <;> exact .pure _
  | abandon t i => exact .bind (abandon_evolving t i) fun _ => .pure _
  | openLoop t e => exact .bind (openLoop_evolving t e) fun _ => .pure _
  | openDefault t e => exact .bind (defaultLoop_evolving t e) fun _ => .pure _
  | share l => exact .bind (.modify fun _ => rfl) fun _ => .pure _
  | limit l duration => exact .bind (.modify fun _ => rfl) fun _ => .pure _
  | dispose t l => exact disposal_evolving t l false
  | dropLoop t l =>
    refine .bind (disown_evolving l) fun last => ?_
    cases last with
    | true => exact disposal_evolving t l true
    | false => exact .pure _
  | close t e =>
    refine .get_bind fun p => ?_
    split
    · exact closing_evolving t e
    · exact .pure _
  | start t o => exact h.elim
  | drive l => exact h.elim
  | proceed n => exact h.elim

theorem Chore.evolving (t : ThreadId) {c : Chore} (h : c ≠ .finishClose true) :
    Evolving (c.run t) := by
  cases c with
  | enqueue l r =>
    refine .bind (push_evolving t l r) fun pushed => ?_
    rcases pushed with _ | _ | n
    · exact .bind (discard_evolving t r _) fun _ => .pure _
    · exact .pure _
    · exact .pure _
  | wake n => exact .bind (wake_idle t n).evolving fun _ => .pure _
  | endDispose l dropped =>
    refine .bind (endDispose_evolving t l) fun result => ?_
    cases dropped with
    | true =>
      exact .bind (noteDisposal_idle result).evolving fun _ =>
        .bind (releaseLoop_idle t l).evolving fun _ => .pure _
    | false => exact .pure _
  | resolve e =>
    refine .bind (resolve_evolving t e) fun result => ?_
    cases result with
    | ok _ => exact .pure _
    | error _ => exact closing_evolving t e
  | settleClose e loop waited =>
    exact .bind (settleClose_evolving t e loop waited) fun _ => .pure _
  | finishClose finalizes =>
    cases finalizes with
    | true => exact absurd rfl h
    | false => exact .bind (.modify fun _ => rfl) fun _ => .pure _

/-! ## Any run -/

namespace Process

/-- The loop of the interpreter that a driver runs, by reference. -/
def loopOf (p : Process) (l : LoopId) : Ref := (p.loop l).driver.bindings.object.ref

theorem Idles.loopOf {p q : Process} (h : p.Idles q) (l : LoopId) : q.loopOf l = p.loopOf l := by
  rw [Process.loopOf, h.loop]
  rfl

theorem ran_loopOf (p : Process) (l k : LoopId) (entry : Scheduled) (rest : List Scheduled) :
    (p.ran l entry rest).2.loopOf k = p.loopOf k := by
  rw [loopOf, loop, Bridge.ran_loops]
  rfl

/-- What a driver does to its loop it does to that loop. -/
theorem changePythonLoop_moves (p : Process) (l : LoopId) (f : Loop → Loop) :
    Memory.Moves (p.loopOf l) p.host.memory (p.changePythonLoop l f).host.memory := by
  simp only [changePythonLoop, pythonLoop?]
  cases hv : p.host.memory.valueOf (p.loop l).driver.bindings.object.ref with
  | loop x => exact .setLoop hv _
  | _ => exact .evolves (.refl _)

theorem ran_moves (p : Process) (l : LoopId) (entry : Scheduled) (rest : List Scheduled) :
    Memory.Moves (p.loopOf l) p.host.memory (p.ran l entry rest).2.host.memory :=
  (p.changePythonLoop_moves l _).trans (.evolves (ask_idle _ _ _).host.memory)

/-- A new interpreter does not touch what earlier ones have made. -/
theorem beginInterpreter_evolves (p : Process) :
    p.host.memory.Evolves p.beginInterpreter.host.memory := by
  let fresh : Memory := { Memory.fresh with
    cells := p.host.memory.cells
    customized := p.host.memory.customized
    output := p.host.memory.output }
  let made : Eval Ref := do Eval.newList (← initialSearchPath.mapM Eval.newString)
  have begun : p.host.memory.Evolves fresh := .of_cells rfl fun _ => id
  have evolves := made.evolves fresh
  refine begun.trans (evolves.trans ?_)
  simp only [Process.beginInterpreter]
  rcases made.run fresh with ⟨_ | path, m⟩
  · exact .refl m
  · exact .of_cells rfl fun _ => id

theorem enroll_evolves (p : Process) (o : Options) :
    p.host.memory.Evolves (p.enroll o).host.memory := by
  cases ha : p.host.lock.alive with
  | true =>
    simp only [enroll, ha]
    exact .refl _
  | false =>
    simp only [enroll, ha]
    exact p.beginInterpreter_evolves

theorem finalize_evolves (p : Process) (t : ThreadId) :
    p.host.memory.Evolves (p.finalize t).host.memory := by
  refine .of_cells ?_ fun r hr => ?_ <;> simp only [finalize]
  · split <;> rfl
  · split <;> exact hr

end Process

namespace Bridge

/-! ## Moves of a driver -/

/-- A driver changes its loop when it calls it, when the loop returns, and with each entry that it
runs. All its other moves are those of any thread. -/
theorem step_evolving {p : Process} {l : LoopId} (entering : (p.loop l).driver.phase ≠ .entering)
    (iterating : ∀ n, (p.loop l).driver.phase ≠ .iterating n) :
    p.host.Becomes (step l p).2.host := by
  cases hp : (p.loop l).driver.phase with
  | entering => exact absurd hp entering
  | looping =>
    rw [step_looping hp]
    exact beginIteration_evolving l p
  | iterating n => exact absurd hp (iterating n)
  | draining =>
    rw [step_draining hp]
    exact drainOne_evolving l p
  | starting c token i =>
    rw [step_starting hp]
    exact startNext_evolving l c token i p
  | registering c token x =>
    rw [step_registering hp]
    exact registerNext_evolving l c token x p
  | accepting c x =>
    rw [step_accepting hp]
    exact acceptNext_evolving l c x p
  | concluding n =>
    rw [step_concluding hp]
    exact concludeNext_evolving l n p
  | closing =>
    rw [step_closing hp]
    exact leave_evolving l p
  | exited =>
    simp only [step, run_get_bind, hp]
    exact .refl _

theorem enterLoop_moves (p : Process) (l : LoopId) :
    Memory.Moves (p.loopOf l) p.host.memory (enterLoop l p).2.host.memory := by
  obtain ⟨-, -, -, he⟩ | ⟨-, he⟩ := enterLoop_cases p l <;> rw [he]
  · exact .evolves (failAll_evolving l _ p).memory
  · exact p.changePythonLoop_moves l _

theorem endIteration_moves (p : Process) (l : LoopId) :
    Memory.Moves (p.loopOf l) p.host.memory (endIteration l p).2.host.memory := by
  obtain ⟨-, -, -, he⟩ | ⟨-, he⟩ := endIteration_cases p l <;> rw [he]
  · exact p.changePythonLoop_moves l _
  · exact .evolves (.refl _)

theorem runNext_moves (p : Process) (l : LoopId) (left : Nat) :
    Memory.Moves (p.loopOf l) p.host.memory (runNext l left p).2.host.memory := by
  obtain ⟨-, he⟩ | ⟨-, entry, rest, -, -, q, came⟩ := runNext_cases p l left
  · rw [he]
    exact .evolves (.refl _)
  · have moves := p.ran_moves l entry rest
    have same := p.ran_loopOf l l entry rest
    obtain ⟨ran, he⟩ | ⟨e, ran, he⟩ := came <;> rw [ran] at moves same <;> rw [he]
    · exact moves
    · have returned := q.changePythonLoop_moves l fun x =>
        { x with stopping := false, running := false }
      rw [same] at returned
      exact (moves.trans returned).trans (.evolves (failAll_evolving l e _).memory)

/-- A driver changes no loop but its own. -/
theorem step_moves (p : Process) (l : LoopId) :
    Memory.Moves (p.loopOf l) p.host.memory (step l p).2.host.memory := by
  cases hp : (p.loop l).driver.phase with
  | entering =>
    rw [step_entering hp]
    exact enterLoop_moves p l
  | iterating n =>
    cases n with
    | zero =>
      rw [step_iterating_zero hp]
      exact endIteration_moves p l
    | succ left =>
      rw [step_iterating_succ hp]
      exact runNext_moves p l left
  | _ => exact .evolves (step_evolving (by rw [hp]; nofun) (by rw [hp]; nofun)).memory

end Bridge

namespace System

theorem step_of_plain (s : System) {a : Action} (h : a.IsPlain) :
    s.step a = after s.chores a.run s.process := by
  cases a with
  | proceed n => exact h.elim
  | _ => rfl

/-- Starting an environment begins an interpreter or nothing. -/
theorem start_process (s : System) (t : ThreadId) (o : Options) :
    (s.step (.start t o)).process = s.process ∨
      (s.step (.start t o)).process = s.process.enroll o := by
  have hp : (s.step (.start t o)).process = (beginStart o s.process).2 := by
    simp only [step, after, Action.run, run_bind]
    generalize beginStart o s.process = b
    obtain ⟨_ | _, _⟩ := b <;> rfl
  rw [hp, beginStart_eq]
  split
  · exact .inl rfl
  · exact .inr rfl

/-- Whatever happens that is no move of a driver, the memory only evolves. -/
theorem step_evolves (s : System) {a : Action} (other : ∀ l, a ≠ .drive l) :
    s.process.host.memory.Evolves (s.step a).process.host.memory := by
  by_cases plain : a.IsPlain
  · rw [step_of_plain s plain]
    exact (Action.evolving plain s.process).memory
  cases a with
  | start t o =>
    rcases start_process s t o with h | h <;> rw [h]
    · exact .refl _
    · exact s.process.enroll_evolves o
  | drive l => exact absurd rfl (other l)
  | proceed n =>
    simp only [step]
    split
    · exact .refl _
    · next t c hn =>
      by_cases hc : c = .finishClose true
      · subst hc
        exact s.process.finalize_evolves t
      · exact (Chore.evolving t hc s.process).memory
  | _ => exact absurd trivial plain

/-- Whatever happens, the memory changes by what programs do and by what one driver does. -/
theorem step_moves (s : System) (a : Action) : ∃ l, (∀ k, a = .drive k → l = k) ∧
    Memory.Moves (s.process.loopOf l) s.process.host.memory (s.step a).process.host.memory := by
  cases a with
  | drive l =>
    refine ⟨l, fun k hk => ?_, Bridge.step_moves s.process l⟩
    cases hk
    rfl
  | _ => exact ⟨0, nofun, .evolves (step_evolves s nofun)⟩

/-- Whatever happens, the memory retains what it has to. -/
theorem step_retains (s : System) (a : Action) :
    s.process.host.memory.Retains (s.step a).process.host.memory := by
  obtain ⟨l, -, moves⟩ := step_moves s a
  exact moves.retains

theorem run_retains (attached : Bool) (as bs : List Action) :
    (run attached as).process.host.memory.Retains
      (run attached (as ++ bs)).process.host.memory := by
  rw [run_append]
  refine List.foldlRecOn (motive := fun s =>
    (run attached as).process.host.memory.Retains s.process.host.memory) bs step (.refl _) ?_
  exact fun s hs a _ => hs.trans (step_retains s a)

end System

end EmbeddedPython
