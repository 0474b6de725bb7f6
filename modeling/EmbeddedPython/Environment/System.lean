import EmbeddedPython.Environment.Basic

/-
  Threads at work

  What a thread of the host does to a loop or to an environment takes several
  steps, and the other threads and the drivers act between them. A step leaves
  chores behind, each of which is a later step of the same thread. A run is any
  sequence of actions: new work on any thread, a move of a driver, or the next
  step of something begun before.
-/

namespace EmbeddedPython

open Activity Bridge

/-- What a thread of the host still has to do. -/
inductive Chore where
  /-- it puts a request into the queue of a loop -/
  | enqueue (l : LoopId) (r : Request)
  /-- it wakes the driver of a loop that has taken a request -/
  | wake (n : Notifier)
  /-- it ends the disposal of a loop, whose last owner may be gone -/
  | endDispose (l : LoopId) (dropped : Bool)
  /-- it resolves what an environment needs -/
  | resolve (e : EnvironmentId)
  /-- it closes an environment, after its default loop has been waited for or not -/
  | settleClose (e : EnvironmentId) (loop : Option LoopId) (waited : Bool)
  /-- it finalizes the interpreter or not, and makes room for another environment -/
  | finishClose (finalizes : Bool)
  deriving DecidableEq, Repr, Inhabited

/-- The chores that a step leaves behind, with the threads that they are for. -/
abbrev Chores := List (ThreadId × Chore)

/-- A process with everything that its threads have begun. -/
structure System where
  process : Process
  chores : Chores
  deriving Inhabited

/-- What can happen next. -/
inductive Action where
  /-- a thread works on the interpreter in whatever way -/
  | operate (t : ThreadId) (op : Op Unit)
  | newSource
  | cancel (t : ThreadId) (source : Nat)
  | submit (t : ThreadId) (l : LoopId) (awaitable : Handle) (token : Cancellation.Token)
  /-- a caller drops the future of a promise -/
  | abandon (t : ThreadId) (i : PromiseId)
  | openLoop (t : ThreadId) (e : EnvironmentId)
  | openDefault (t : ThreadId) (e : EnvironmentId)
  /-- a loop gets one more owner -/
  | share (l : LoopId)
  | limit (l : LoopId) (duration : Duration)
  | dispose (t : ThreadId) (l : LoopId)
  | dropLoop (t : ThreadId) (l : LoopId)
  | start (t : ThreadId) (o : Options)
  /-- an environment is shut down or dropped -/
  | close (t : ThreadId) (e : EnvironmentId)
  /-- the driver of a loop makes its next move -/
  | drive (l : LoopId)
  /-- a thread takes up a chore -/
  | proceed (n : Nat)

/-- Begins to dispose of a loop. -/
def disposal (t : ThreadId) (l : LoopId) (dropped : Bool) : Activity Chores := do
  if ← markDisposed l then pure [(t, .enqueue l .stop), (t, .endDispose l dropped)]
  else
    if dropped then releaseLoop t l
    pure []

/-- Begins to close an environment. -/
def closing (t : ThreadId) (e : EnvironmentId) : Activity Chores := do
  match (← markClosed e) with
  | none => pure []
  | some none => pure [(t, .settleClose e none false)]
  | some (some l) =>
    if ← markDisposed l then pure [(t, .enqueue l .stop), (t, .settleClose e (some l) true)]
    else pure [(t, .settleClose e (some l) false)]

/-- An environment can be closed once it has been handed out. -/
def isOpen (p : Process) (e : EnvironmentId) : Bool := (p.environment e).bindings.isSome

namespace Chore

/-- Takes up a chore. -/
def run (t : ThreadId) : Chore → Activity Chores
  | enqueue l r => do
    match (← push t l r) with
    | .refused => do
      discard t r .eventLoopClosed
      pure []
    | .queued none => pure []
    | .queued (some n) => pure [(t, .wake n)]
  | wake n => do
    Bridge.wake t n
    pure []
  | endDispose l dropped => do
    let result ← Bridge.endDispose t l
    if dropped then
      noteDisposal result
      releaseLoop t l
    pure []
  | resolve e => do
    match (← Activity.resolve t e) with
    | .ok _ => pure []
    | .error _ => closing t e
  | settleClose e loop waited => do
    let (_, finalizes) ← Activity.settleClose t e loop waited
    pure [(t, .finishClose finalizes)]
  | finishClose finalizes => do
    Activity.finishClose t finalizes
    pure []

end Chore

namespace Action

/-- Begins something. -/
def run : Action → Activity Chores
  | operate t op => do
    tell t op
    pure []
  | newSource => do
    let _ ← Bridge.newSource
    pure []
  | cancel t source => do
    pure ((← raiseSignal source).map fun c => (t, .enqueue c.loop (.cancel c.task)))
  | submit t l awaitable token => do
    match (← prepare t l awaitable token) with
    | .ok (r, _) => pure [(t, .enqueue l r)]
    | .error _ => pure []
  | abandon t i => do
    Bridge.abandon t i
    pure []
  | openLoop t e => do
    let _ ← Bridge.openLoop t e
    pure []
  | openDefault t e => do
    let _ ← defaultLoop t e
    pure []
  | share l => do
    Bridge.share l
    pure []
  | limit l duration => do
    setLimit l duration
    pure []
  | dispose t l => disposal t l false
  | dropLoop t l => do if ← disown l then disposal t l true else pure []
  | start t o => do
    match (← beginStart o) with
    | .ok e => pure [(t, .resolve e)]
    | .error _ => pure []
  | close t e => do if isOpen (← get) e then closing t e else pure []
  | drive l => do
    let _ ← step l
    pure []
  | proceed _ => pure []

end Action

namespace System

/-- A process without an interpreter, or with one that somebody else has initialized. -/
def initial (attached : Bool) : System :=
  ⟨if attached then Process.attached else Process.absent, []⟩

/-- What an activity makes of a process, with the chores that it leaves behind. -/
def after (chores : Chores) (x : Activity Chores) (p : Process) : System :=
  ⟨(x p).2, chores ++ (x p).1⟩

/-- What happens by an action. -/
def step (s : System) : Action → System
  | .proceed n =>
    match s.chores[n]? with
    | none => s
    | some (t, chore) => after (s.chores.eraseIdx n) (chore.run t) s.process
  | a => after s.chores a.run s.process

/-- The state after some actions. -/
def run (attached : Bool) (actions : List Action) : System :=
  actions.foldl step (initial attached)

end System

end EmbeddedPython
