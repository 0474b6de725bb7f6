import EmbeddedPython.Proofs.Environment.Board
import EmbeddedPython.Proofs.Host.Succeeding

/-
  What an action comes to on the board

  `System.Act` lists everything that an action can do to the board, with the
  deeds that go into the history and with what is known when it is done. Each
  invariant of queues, tasks and signals has to be checked for these cases only.
-/

namespace EmbeddedPython

open Activity Bridge

/-! ## Changes of a board that a driver makes -/

namespace Board

/-- Asks the task with a number to cancel, if it is there. -/
def cancelOne (b : Board) (l : LoopId) (id : TaskId) : Board :=
  match (b.desk l).tasks.find? (·.id == id) with
  | none => b
  | some x => (b.giveUp x.registration).change l fun d =>
      { d with tasks := d.tasks.map fun y => if y.id == id then y.withdrawn else y }

def signal (b : Board) (i : Nat) : Cancellation.Signal CancelCall :=
  b.signals.getD i Cancellation.Signal.fresh

/-- Puts a signal in the place of another one. -/
def putSignal (b : Board) (i : Nat) (signal : Cancellation.Signal CancelCall) : Board :=
  { b with signals := b.signals.setIfInBounds i signal }

/-- Gives up the registrations of some tasks. -/
def giveUpAll (b : Board) (xs : List Tracked) : Board :=
  xs.foldl (fun b x => b.giveUp x.registration) b

/-- Asks all tasks to cancel, unless that has been done. -/
def stopAll (b : Board) (l : LoopId) : Board :=
  if (b.desk l).stopping then b
  else (b.giveUpAll (b.desk l).tasks).change l fun d =>
    { d with stopping := true, tasks := d.tasks.map Tracked.withdrawn }

/-- Fails some tasks. -/
def fail (b : Board) (xs : List Tracked) (e : Error) : Board :=
  xs.foldl (fun b x => (b.giveUp x.registration).tell x.promise (.settled (.error e))) b

/-- Tells the callers of some requests that the queue is closed. -/
def hand (b : Board) (rs : List Request) : Board :=
  rs.foldl (fun b r => b.answer r .eventLoopClosed) b

section

variable (b : Board) (xs : List Tracked) (rs : List Request) (e : Error)

@[simp] theorem giveUp_desk (r : Cancellation.Registration) : (b.giveUp r).desk = b.desk := rfl

@[simp] theorem giveUp_nextTask (r : Cancellation.Registration) :
    (b.giveUp r).nextTask = b.nextTask := rfl

@[simp] theorem giveUp_stage (r : Cancellation.Registration) : (b.giveUp r).stage = b.stage := rfl

@[simp] theorem giveUp_pending (r : Cancellation.Registration) :
    (b.giveUp r).pending = b.pending := rfl

/-- What giving up registrations leaves alone. -/
theorem giveUpAll_eq : b.giveUpAll xs = { b with signals := (b.giveUpAll xs).signals } := by
  induction xs generalizing b with
  | nil => rfl
  | cons x xs ih => exact ih (b.giveUp x.registration)

theorem giveUpAll_tell (i : PromiseId) (stage : Bridge.Stage) :
    (b.tell i stage).giveUpAll xs = (b.giveUpAll xs).tell i stage := by
  induction xs generalizing b with
  | nil => rfl
  | cons x xs ih => exact ih (b.giveUp x.registration)

/-- What failing tasks leaves alone. -/
theorem fail_eq : b.fail xs e =
    { b with signals := (b.giveUpAll xs).signals, stage := (b.fail xs e).stage } := by
  induction xs generalizing b with
  | nil => rfl
  | cons x xs ih =>
    have h := ih ((b.giveUp x.registration).tell x.promise (.settled (.error e)))
    rw [giveUpAll_tell] at h
    exact h

/-- What handing requests back leaves alone. -/
theorem hand_eq : b.hand rs = { b with stage := (b.hand rs).stage } := by
  induction rs generalizing b with
  | nil => rfl
  | cons r rs ih =>
    have h := ih (b.answer r .eventLoopClosed)
    cases r <;> exact h

variable {b} in
theorem change_eq_self {l : LoopId} {f : Desk → Desk} (h : f (b.desk l) = b.desk l) :
    b.change l f = b := by
  simp [change, h]

@[simp] theorem giveUpAll_desk : (b.giveUpAll xs).desk = b.desk := by rw [giveUpAll_eq]

@[simp] theorem giveUpAll_nextTask : (b.giveUpAll xs).nextTask = b.nextTask := by rw [giveUpAll_eq]

@[simp] theorem giveUpAll_pending : (b.giveUpAll xs).pending = b.pending := by rw [giveUpAll_eq]

@[simp] theorem fail_desk : (b.fail xs e).desk = b.desk := by rw [fail_eq]

@[simp] theorem fail_signals : (b.fail xs e).signals = (b.giveUpAll xs).signals := by rw [fail_eq]

@[simp] theorem fail_nextTask : (b.fail xs e).nextTask = b.nextTask := by rw [fail_eq]

@[simp] theorem fail_pending : (b.fail xs e).pending = b.pending := by rw [fail_eq]

@[simp] theorem hand_desk : (b.hand rs).desk = b.desk := by rw [hand_eq]

@[simp] theorem hand_signals : (b.hand rs).signals = b.signals := by rw [hand_eq]

@[simp] theorem hand_nextTask : (b.hand rs).nextTask = b.nextTask := by rw [hand_eq]

@[simp] theorem hand_pending : (b.hand rs).pending = b.pending := by rw [hand_eq]

theorem cancelOne_of_ne {l k : LoopId} (h : k ≠ l) (id : TaskId) :
    (b.cancelOne l id).desk k = b.desk k := by
  simp only [cancelOne]
  split
  · rfl
  · rw [change_desk_of_ne _ h, giveUp_desk]

theorem cancelOne_self (l : LoopId) (id : TaskId) : (b.cancelOne l id).desk l =
    { b.desk l with
      tasks := (b.desk l).tasks.map fun y => if y.id == id then y.withdrawn else y } := by
  simp only [cancelOne]
  split
  · next hx =>
    have same : (b.desk l).tasks.map (fun y => if y.id == id then y.withdrawn else y) =
        (b.desk l).tasks := by
      refine (List.map_congr_left fun y hy => ?_).trans (List.map_id _)
      rw [if_neg (List.find?_eq_none.mp hx y hy)]
      rfl
    rw [same]
  · rw [change_desk_self, giveUp_desk]

theorem cancelOne_phase (l k : LoopId) (id : TaskId) :
    ((b.cancelOne l id).desk k).phase = (b.desk k).phase := by
  by_cases hk : k = l
  · subst hk
    rw [cancelOne_self]
  · rw [cancelOne_of_ne _ hk]

theorem stopAll_of_ne {l k : LoopId} (h : k ≠ l) : (b.stopAll l).desk k = b.desk k := by
  simp only [stopAll]
  split
  · rfl
  · rw [change_desk_of_ne _ h, giveUpAll_desk]

theorem stopAll_self (l : LoopId) : (b.stopAll l).desk l =
    { b.desk l with
      stopping := true
      tasks := if (b.desk l).stopping then (b.desk l).tasks
        else (b.desk l).tasks.map Tracked.withdrawn } := by
  simp only [stopAll]
  split
  · next h => rw [← h]
  · rw [change_desk_self, giveUpAll_desk]

theorem stopAll_phase (l k : LoopId) : ((b.stopAll l).desk k).phase = (b.desk k).phase := by
  by_cases hk : k = l
  · subst hk
    rw [stopAll_self]
  · rw [stopAll_of_ne _ hk]

theorem change_giveUpAll (l : LoopId) (f : Desk → Desk) :
    (b.change l f).giveUpAll xs = (b.giveUpAll xs).change l f := by
  induction xs generalizing b with
  | nil => rfl
  | cons x xs ih => exact ih (b.giveUp x.registration)

theorem change_fail (l : LoopId) (f : Desk → Desk) :
    (b.change l f).fail xs e = (b.fail xs e).change l f := by
  induction xs generalizing b with
  | nil => rfl
  | cons x xs ih => exact ih ((b.giveUp x.registration).tell x.promise (.settled (.error e)))

theorem change_hand (l : LoopId) (f : Desk → Desk) :
    (b.change l f).hand rs = (b.hand rs).change l f := by
  induction rs generalizing b with
  | nil => rfl
  | cons r rs ih =>
    have h := ih (b.answer r .eventLoopClosed)
    cases r <;> exact h

end

end Board

/-! ## What a driver has learnt -/

namespace Process

/-- Whether the entry that the loop of the interpreter runs next raises something out of it. -/
def Raises (p : Process) (l : LoopId) (e : Error) : Prop :=
  ∃ x entry rest, p.pythonLoop? l = some x ∧ x.ready = entry :: rest ∧
    let r := (p.loop l).driver.bindings.object.ref
    (ask (driverThread l) (Op.ask [r] (Eval.runReady Machine.top r entry))
      (p.changePythonLoop l fun x => { x with ready := rest })).1 = .error e

/-- How the call that runs the loop of the interpreter fails. -/
inductive RunFails (p : Process) (l : LoopId) : Error → Prop where
  /-- the loop has been closed -/
  | closed {x : Loop} (phase : (p.loop l).driver.phase = .entering)
      (here : p.pythonLoop? l = some x) (closed : x.closed = true) : RunFails p l closedLoop
  /-- an entry raised something that the loop lets through -/
  | raised {left : Nat} {e : Error} (phase : (p.loop l).driver.phase = .iterating (left + 1))
      (h : p.Raises l e) : RunFails p l e

theorem RunFails.phase {p : Process} {l : LoopId} {e : Error} (h : p.RunFails l e) :
    (p.loop l).driver.phase = .entering ∨
      ∃ left, (p.loop l).driver.phase = .iterating (left + 1) := by
  cases h with
  | closed phase => exact .inl phase
  | raised phase => exact .inr ⟨_, phase⟩

theorem RunFails.raises {p : Process} {l : LoopId} {e : Error} {n : Nat} (h : p.RunFails l e)
    (phase : (p.loop l).driver.phase = .iterating n) : p.Raises l e := by
  cases h with
  | closed entering => exact nomatch phase.symm.trans entering
  | raised _ raises => exact raises

/-- Only what the next entry comes to is raised. -/
theorem Raises.ran {p : Process} {l : LoopId} {e : Error} (h : p.Raises l e) {x : Loop}
    {entry : Scheduled} {rest : List Scheduled} (here : p.pythonLoop? l = some x)
    (ready : x.ready = entry :: rest) : (p.ran l entry rest).1 = .error e := by
  obtain ⟨y, entry', rest', here', ready', raised⟩ := h
  cases here.symm.trans here'
  cases ready.symm.trans ready'
  exact raised

theorem not_runFails_of_phase {p : Process} {l : LoopId} {phase : Bridge.Phase}
    (h : (p.loop l).driver.phase = phase) (entering : phase ≠ .entering)
    (iterating : ∀ left, phase ≠ .iterating (left + 1)) (e : Error) : ¬ p.RunFails l e := by
  intro hf
  rcases hf.phase with hp | ⟨left, hp⟩
  · exact entering (h.symm.trans hp)
  · exact iterating left (h.symm.trans hp)

/-- What comes of setting up the task for a coroutine. -/
def setUp (p : Process) (l : LoopId) (coroutine : Handle) : Except Error (Handle × Handle) :=
  (ask (driverThread l) (startTask (p.loop l).driver.bindings coroutine) p).1

/-- Whether a driver is not looking at a task that is done. -/
def Undone (p : Process) (l : LoopId) : Prop :=
  ∀ n x, (p.loop l).driver.phase = .concluding n → (p.loop l).driver.tasks[n]? = some x →
    p.answer? l x = none

theorem undone_of_phase {p : Process} {l : LoopId} {phase : Bridge.Phase}
    (h : (p.loop l).driver.phase = phase) (other : ∀ n, phase ≠ .concluding n) : p.Undone l :=
  fun n _ hp => absurd (h.symm.trans hp) (other n)

/-- What is kept of what a task has come to. -/
def kept (p : Process) (l : LoopId) (x : Tracked) (outcome : Bridge.Outcome) : Bridge.Outcome :=
  let t := driverThread l
  (keepOutcome t x.promise outcome (giveUp x.registration (ask t x.outcome? p).2).2).1

end Process

/-- Where a driver can go on to when nothing else happens. -/
inductive Bridge.Desk.Goes (d : Desk) : Bridge.Phase → Prop where
  | enter (h : d.phase = .entering) : Goes d .looping
  | begin (n : Nat) (h : d.phase = .looping) : Goes d (.iterating n)
  | next {m : Nat} (n : Nat) (h : d.phase = .iterating m) : Goes d (.iterating n)
  | again {n : Nat} (h : d.phase = .iterating n) : Goes d .looping
  | return {n : Nat} (h : d.phase = .iterating n) : Goes d .draining
  /-- every request has been handled -/
  | drained (h : d.phase = .draining) (requests : d.requests = []) : Goes d (.concluding 0)
  /-- a task is not done -/
  | pass {n : Nat} (h : d.phase = .concluding n) (task : n < d.tasks.length) :
      Goes d (.concluding (n + 1))
  | round {n : Nat} (h : d.phase = .concluding n) (tasks : d.tasks.length ≤ n)
      (more : d.stopping = false ∨ d.tasks ≠ []) : Goes d .entering
  /-- no task is left, and the driver is to stop -/
  | last {n : Nat} (h : d.phase = .concluding n) (stopping : d.stopping = true)
      (tasks : d.tasks = []) : Goes d .closing

/-- Whether an action may open a loop. -/
def Action.Opens : Action → Prop
  | openLoop _ _ | openDefault _ _ => True
  | _ => False

namespace System

def board (s : System) : Board := s.process.board (pushes s.chores)

/-- What an action can come to on the board, with the deeds that it adds to the history. -/
inductive Act (s : System) : Action → List Deed → Board → Prop where
  /-- Nothing but requests to stop that are left to be pushed. -/
  | quiet (a : Action) (more : List (LoopId × Request)) (h : ∀ x ∈ more, x.2 = .stop)
      (other : ∀ l, a ≠ .drive l) :
      Act s a [] { s.board with pending := s.board.pending ++ more }
  /-- A request is made, with a new promise. -/
  | submit (t : ThreadId) (l : LoopId) (awaitable coroutine : Handle)
      (token : Cancellation.Token) (same : coroutine = Handle.adopt awaitable.ref) :
      Act s (.submit t l awaitable token) [] { s.board with
        stage := Function.update s.board.stage s.process.promises.size (some .submitted)
        pending := s.board.pending ++ [(l, .schedule coroutine token s.process.promises.size)] }
  | source : Act s .newSource [] { s.board with
      signals := s.board.signals.push Cancellation.Signal.fresh }
  /-- A signal is raised; the tasks that wait on it are still to be asked to cancel. -/
  | raise (t : ThreadId) (i : Nat) : Act s (.cancel t i) []
      { s.board.putSignal i (s.board.signal i).raise.2 with
        pending := s.board.pending ++ (s.board.signal i).raise.1.map fun w =>
          (w.callback.loop, .cancel w.callback.task) }
  | openLoop (a : Action) (vacant : s.board.desk s.process.loops.size = Desk.vacant)
      (other : ∀ l, a ≠ .drive l) (opens : a.Opens) :
      Act s a [] (s.board.change s.process.loops.size fun _ => Desk.fresh)
  | push (n : Nat) (l : LoopId) (r : Request) (before after : List (LoopId × Request))
      (h : s.board.pending = before ++ (l, r) :: after) (isOpen : (s.board.desk l).isOpen = true) :
      Act s (.proceed n) [.push l r] ({ s.board with pending := before ++ after }.change l
        fun d => { d with requests := d.requests ++ [r] })
  /-- A queue does not take a request. -/
  | refuse (n : Nat) (l : LoopId) (r : Request) (before after : List (LoopId × Request))
      (h : s.board.pending = before ++ (l, r) :: after)
      (closed : (s.board.desk l).isOpen = false) :
      Act s (.proceed n) [] ({ s.board with pending := before ++ after }.answer r .eventLoopClosed)
  /-- A driver waits, or is not there. -/
  | wait (l : LoopId)
      (phase : (s.board.desk l).phase = .looping ∨ (s.board.desk l).phase = .exited) :
      Act s (.drive l) [] s.board
  /-- A driver only goes on. -/
  | go (l : LoopId) (phase : Bridge.Phase) (h : (s.board.desk l).Goes phase)
      (runs : ∀ e, ¬ s.process.RunFails l e) (undone : s.process.Undone l) :
      Act s (.drive l) [] (s.board.change l fun d => { d with phase := phase })
  /-- The loop of the interpreter fails, and all tasks with it. -/
  | fail (l : LoopId) (e : Error) (h : s.process.RunFails l e) :
      Act s (.drive l) ((s.board.desk l).tasks.map fun x => .finish l x.id)
        ((s.board.fail (s.board.desk l).tasks e).change l fun d =>
          { d with tasks := [], phase := .closing })
  | takeSchedule (l : LoopId) (coroutine : Handle) (token : Cancellation.Token) (i : PromiseId)
      (rest : List Request) (phase : (s.board.desk l).phase = .draining)
      (h : (s.board.desk l).requests = .schedule coroutine token i :: rest) :
      Act s (.drive l) [.take l (.schedule coroutine token i)] (s.board.change l fun d =>
        { d with requests := rest, phase := .starting coroutine token i })
  | takeCancel (l : LoopId) (id : TaskId) (rest : List Request)
      (phase : (s.board.desk l).phase = .draining)
      (h : (s.board.desk l).requests = .cancel id :: rest) :
      Act s (.drive l)
        (.take l (.cancel id) :: ((s.board.desk l).tasks.find? (·.id == id)).toList.map fun x =>
          .ask l x.id)
        ((s.board.change l fun d => { d with requests := rest, phase := .draining }).cancelOne l id)
  | takeStop (l : LoopId) (rest : List Request) (phase : (s.board.desk l).phase = .draining)
      (h : (s.board.desk l).requests = .stop :: rest) :
      Act s (.drive l)
        (.take l .stop :: if (s.board.desk l).stopping then []
          else (s.board.desk l).tasks.map fun x => .ask l x.id)
        ((s.board.change l fun d => { d with requests := rest, phase := .draining }).stopAll l)
  /-- A task is not started, because the driver is to stop or the task is cancelled already. -/
  | reject (l : LoopId) (coroutine : Handle) (token : Cancellation.Token) (i : PromiseId)
      (why : Refusal) (phase : (s.board.desk l).phase = .starting coroutine token i)
      (h : (why = .stopping ∧ (s.board.desk l).stopping = true) ∨
        (why = .requested ∧ (s.board.desk l).stopping = false ∧
          token.isRequested s.board.signals = true)) :
      Act s (.drive l) [.reject l i why]
        ((s.board.tell i (.settled (.error .canceled))).change l fun d =>
          { d with phase := .draining })
  /-- A task cannot be set up. -/
  | unprepared (l : LoopId) (coroutine : Handle) (token : Cancellation.Token) (i : PromiseId)
      (e : Error) (phase : (s.board.desk l).phase = .starting coroutine token i)
      (running : (s.board.desk l).stopping = false)
      (unrequested : token.isRequested s.board.signals = false)
      (h : s.process.setUp l coroutine = .error e) :
      Act s (.drive l) [.reject l i .failed]
        (({ s.board with nextTask := s.board.nextTask + 1 }.tell i (.settled (.error e))).change l
          fun d => { d with phase := .draining })
  | start (l : LoopId) (coroutine : Handle) (token : Cancellation.Token) (i : PromiseId)
      (task done : Handle) (phase : (s.board.desk l).phase = .starting coroutine token i)
      (running : (s.board.desk l).stopping = false)
      (unrequested : token.isRequested s.board.signals = false)
      (h : s.process.setUp l coroutine = .ok (task, done)) :
      Act s (.drive l) [.start l s.board.nextTask i token]
        ({ s.board with nextTask := s.board.nextTask + 1 }.change l fun d => { d with
          phase := .registering coroutine token ⟨s.board.nextTask, task, done, i, .nothing⟩ })
  /-- A task that has no signal is not registered. -/
  | skip (l : LoopId) (coroutine : Handle) (token : Cancellation.Token) (x : Tracked)
      (phase : (s.board.desk l).phase = .registering coroutine token x)
      (h : token.signal = none) :
      Act s (.drive l) [] (s.board.change l fun d =>
        { d with phase := .accepting coroutine { x with registration := .nothing } })
  | register (l : LoopId) (coroutine : Handle) (token : Cancellation.Token) (x : Tracked)
      (i : Nat) (phase : (s.board.desk l).phase = .registering coroutine token x)
      (h : token.signal = some i) (unraised : (s.board.signal i).raised = false) :
      Act s (.drive l) []
        ((s.board.putSignal i ((s.board.signal i).register ⟨l, x.id⟩ []).2).change l fun d =>
          { d with
            phase := .accepting coroutine
              { x with registration := ⟨some i, (s.board.signal i).nextId⟩ } })
  /-- On a signal that has been raised a task is not registered but asked to cancel. -/
  | overtaken (l : LoopId) (coroutine : Handle) (token : Cancellation.Token) (x : Tracked)
      (i : Nat) (phase : (s.board.desk l).phase = .registering coroutine token x)
      (h : token.signal = some i) (raised : (s.board.signal i).raised = true)
      (isOpen : (s.board.desk l).isOpen = true) :
      Act s (.drive l) [.push l (.cancel x.id)]
        ((s.board.putSignal i ((s.board.signal i).register ⟨l, x.id⟩ []).2).change l fun d =>
          { d with
            requests := d.requests ++ [.cancel x.id]
            phase := .accepting coroutine { x with registration := .nothing } })
  | accept (l : LoopId) (coroutine : Handle) (x : Tracked)
      (phase : (s.board.desk l).phase = .accepting coroutine x)
      (awaited : (s.process.promise x.promise).awaited = true) :
      Act s (.drive l) [.track l x.id] ((s.board.tell x.promise .accepted).change l fun d =>
        { d with tasks := d.tasks ++ [x], phase := .draining })
  /-- Nobody waits for the task any more. -/
  | disown (l : LoopId) (coroutine : Handle) (x : Tracked)
      (phase : (s.board.desk l).phase = .accepting coroutine x)
      (abandoned : (s.process.promise x.promise).awaited = false) :
      Act s (.drive l) [.track l x.id, .ask l x.id]
        (((s.board.tell x.promise .accepted).change l fun d =>
          { d with tasks := d.tasks ++ [x], phase := .draining }).cancelOne l x.id)
  /-- A task is found to be done. -/
  | conclude (l : LoopId) (n : Nat) (x : Tracked) (outcome : Bridge.Outcome)
      (phase : (s.board.desk l).phase = .concluding n)
      (here : (s.board.desk l).tasks[n]? = some x)
      (h : s.process.answer? l x = some outcome) :
      Act s (.drive l) [.finish l x.id] (((s.board.giveUp x.registration).tell x.promise
        (.settled (s.process.kept l x outcome))).change l fun d =>
          { d with tasks := d.tasks.eraseIdx n })
  /-- A driver leaves. -/
  | leave (l : LoopId) (phase : (s.board.desk l).phase = .closing) :
      Act s (.drive l) ((s.board.desk l).requests.map (.clear l))
        ((s.board.hand (s.board.desk l).requests).change l fun d =>
          { d with requests := [], isOpen := false, phase := .exited })

/-- Nothing happens on the board. -/
theorem Act.nothing (s : System) {a : Action} (other : ∀ l, a ≠ .drive l) :
    s.Act a [] s.board := by
  have h := Act.quiet (s := s) a [] (by simp) other
  rwa [List.append_nil] at h

/-- What holds after any actions and is needed to say what the next one comes to. -/
structure Sound (s : System) : Prop where
  books : s.Books
  ordered : s.Ordered
  /-- the queue of a driver is open until it leaves -/
  opened : ∀ l, (s.board.desk l).phase ≠ .exited → (s.board.desk l).isOpen = true

/-- A driver has an interpreter to work on. -/
theorem Sound.alive {s : System} (h : s.Sound) {l : LoopId}
    (live : (s.board.desk l).phase ≠ .exited) : s.process.host.lock.alive = true := by
  refine Bool.eq_true_of_not_eq_false fun dead => ?_
  exact h.ordered.custody.absent (by simpa [Lock.alive] using dead) l live

theorem Sound.takes_eq {s : System} (h : s.Sound) (t : ThreadId) (l : LoopId) :
    s.process.takes t l = (s.board.desk l).isOpen := by
  show ((s.process.loop l).notifier.isSome && canLock s.process t) =
    (s.process.loop l).notifier.isSome
  by_cases live : s.process.Live l
  · simp [canLock, h.alive live]
  · have left : (s.process.loop l).driver.phase = .exited := Decidable.not_not.mp live
    simp [((h.books.ledger l).exited left).2.2]

end System

end EmbeddedPython
