import EmbeddedPython.Cancellation.Signal
import EmbeddedPython.Handle.Call
import EmbeddedPython.Options.Basic

/-
  The state of the bridge

  Each event loop of the host has a queue of requests and a driver, a thread
  that runs the loop of the interpreter and handles the requests in order. A
  caller waits for a promise with two stages: the driver first accepts or
  rejects the request, and later settles what the task came to. The process
  holds the loops, the promises, the cancellation signals and the environments
  beside the interpreter, and a journal of what has happened to the requests.
-/

namespace EmbeddedPython

abbrev LoopId := Nat

abbrev TaskId := Nat

abbrev PromiseId := Nat

abbrev EnvironmentId := Nat

namespace Bridge

/-- What a caller is told: the object that its task returned, or why there is none. -/
abbrev Outcome := Except Error Handle

/-- A unit of work for a driver. -/
inductive Request where
  | schedule (coroutine : Handle) (token : Cancellation.Token) (promise : PromiseId)
  | cancel (task : TaskId)
  | stop
  deriving DecidableEq, Repr, Inhabited

namespace Request

/-- What the caller of a request waits for, if anything. -/
def promise? : Request → Option PromiseId
  | schedule _ _ promise => some promise
  | _ => none

end Request

/-- What can happen to a request and to the promise that comes with it. -/
inductive Event where
  /-- the queue takes the request -/
  | queued
  /-- the driver takes the request out of the queue -/
  | drained
  /-- the request is taken out of the queue because the queue is closed -/
  | cleared
  /-- the caller is told that its task has been started -/
  | accepted
  /-- the caller is told that its task will not be started -/
  | rejected
  /-- the caller is told what its task came to -/
  | finished
  deriving DecidableEq, Repr, Inhabited

/-- An entry of the journal. -/
structure Entry where
  event : Event
  loop : LoopId
  promise : PromiseId
  deriving DecidableEq, Repr, Inhabited

/-- How far a promise is. -/
inductive Stage where
  | submitted
  /-- a task has been started -/
  | accepted
  | settled (outcome : Outcome)
  deriving Inhabited

/-- What a caller waits for. -/
structure Promise where
  stage : Stage
  /-- whether the caller still waits -/
  awaited : Bool
  deriving Inhabited

/-- A task that a driver keeps track of. -/
structure Tracked where
  id : TaskId
  task : Handle
  /-- the method that says whether the task is done -/
  done : Handle
  promise : PromiseId
  registration : Cancellation.Registration
  deriving DecidableEq, Repr, Inhabited

/-- The bound methods that wake a driver. -/
structure Notifier where
  callSoon : Handle
  stop : Handle
  deriving DecidableEq, Repr, Inhabited

/-- What a driver is about to do. -/
inductive Phase where
  /-- it calls the loop of the interpreter -/
  | entering
  /-- it runs the loop of the interpreter, between two iterations -/
  | looping
  /-- it runs an iteration, with so many entries left -/
  | iterating (left : Nat)
  /-- it takes the next request -/
  | draining
  /-- it starts a task -/
  | starting (coroutine : Handle) (token : Cancellation.Token) (promise : PromiseId)
  /-- it registers for the cancellation of a task that has been started -/
  | registering (coroutine : Handle) (token : Cancellation.Token) (task : Tracked)
  /-- it tells the caller that the task has been started -/
  | accepting (coroutine : Handle) (task : Tracked)
  /-- it looks whether the next of its tasks is done -/
  | concluding (next : Nat)
  /-- it closes the queue and leaves -/
  | closing
  | exited
  deriving DecidableEq, Repr

instance : Inhabited Phase := ⟨.exited⟩

/-- The objects that a driver needs. -/
structure DriverBindings where
  object : Handle
  runForever : Handle
  ensureFuture : Handle
  stopOnDone : Handle
  deriving DecidableEq, Repr, Inhabited

/-- The thread that runs a loop. -/
structure Driver where
  bindings : DriverBindings
  tasks : List Tracked
  stopping : Bool
  phase : Phase
  deriving DecidableEq, Repr, Inhabited

/-- An event loop of the host. -/
structure EventLoop where
  environment : EnvironmentId
  /-- the loop of the interpreter, as the host holds it -/
  object : Handle
  requests : List Request
  /-- nothing once the queue is closed -/
  notifier : Option Notifier
  /-- how long disposal waits for the driver -/
  limit : Duration
  disposed : Bool
  /-- how many owners the loop has; the last to let go disposes of it -/
  owners : Nat
  driver : Driver
  deriving DecidableEq, Repr, Inhabited

/-- What a raised signal does to a task. -/
structure CancelCall where
  loop : LoopId
  task : TaskId
  deriving DecidableEq, Repr, Inhabited

end Bridge

/-- The objects that an environment resolves once. -/
structure Bindings where
  newEventLoop : Handle
  ensureFuture : Handle
  stopOnDone : Handle
  deriving DecidableEq, Repr, Inhabited

/-- A started environment. -/
structure Environment where
  options : Options
  /-- whether the environment initialized the interpreter -/
  owns : Bool
  bindings : Option Bindings
  defaultLoop : Option LoopId
  /-- how many of the drivers that the environment has started are running -/
  leases : Nat
  closed : Bool
  deriving DecidableEq, Repr, Inhabited

/-- The state of a process. -/
structure Process where
  host : Host
  signals : Cancellation.Signals Bridge.CancelCall
  loops : Array Bridge.EventLoop
  promises : Array Bridge.Promise
  /-- the number of the next task -/
  nextTask : TaskId
  environments : Array Environment
  /-- whether an environment is live -/
  active : Bool
  /-- the environment that is shared by the whole process -/
  shared : Option EnvironmentId
  /-- how many interpreters have been initialized -/
  interpreters : Nat
  /-- what has happened to the requests, latest first -/
  journal : List Bridge.Entry
  deriving Inhabited

/-- A computation on the state of the process. -/
abbrev Activity (α : Type) := StateM Process α

namespace Process

def absent : Process := ⟨Host.absent, #[], #[], #[], 1, #[], false, none, 0, []⟩

/-- A process whose interpreter has been initialized by somebody else. -/
def attached : Process := { absent with host := Host.fresh, interpreters := 1 }

def loop (p : Process) (l : LoopId) : Bridge.EventLoop := p.loops.getD l default

def promise (p : Process) (i : PromiseId) : Bridge.Promise := p.promises.getD i default

/-- The thread of the driver of a loop. -/
def driverThread (l : LoopId) : ThreadId := l + 2

def environment (p : Process) (e : EnvironmentId) : Environment := p.environments.getD e default

/-- How many times something has happened to a request on a loop. -/
def occurrences (p : Process) (event : Bridge.Event) (l : LoopId) (i : PromiseId) : Nat :=
  p.journal.count ⟨event, l, i⟩

def changeLoop (p : Process) (l : LoopId) (f : Bridge.EventLoop → Bridge.EventLoop) : Process :=
  { p with loops := p.loops.modify l f }

def changePromise (p : Process) (i : PromiseId) (f : Bridge.Promise → Bridge.Promise) : Process :=
  { p with promises := p.promises.modify i f }

def changeEnvironment (p : Process) (e : EnvironmentId) (f : Environment → Environment) :
    Process :=
  { p with environments := p.environments.modify e f }

end Process

namespace Activity

/-- Performs an operation on a thread. One that never comes back leaves a closed loop behind. -/
def ask {α : Type} (t : ThreadId) (op : Op α) : Activity (Except Error α) := fun p =>
  match op.perform t p.host with
  | (.ok a, h) => (.ok a, { p with host := h })
  | (.error (.error e), h) => (.error e, { p with host := h })
  | (.error _, h) => (.error .eventLoopClosed, { p with host := h })

/-- Performs an operation whose failure makes no difference. -/
def tell (t : ThreadId) (op : Op Unit) : Activity Unit := do
  let _ ← ask t op
  pure ()

def note (m : LogMessage) : Activity Unit :=
  modify fun p => { p with host := { p.host with log := p.host.log ++ [m] } }

def modifyLoop (l : LoopId) (f : Bridge.EventLoop → Bridge.EventLoop) : Activity Unit :=
  modify fun p => p.changeLoop l f

def modifyDriver (l : LoopId) (f : Bridge.Driver → Bridge.Driver) : Activity Unit :=
  modifyLoop l fun x => { x with driver := f x.driver }

def setPhase (l : LoopId) (phase : Bridge.Phase) : Activity Unit :=
  modifyDriver l fun d => { d with phase := phase }

def modifyPromise (i : PromiseId) (f : Bridge.Promise → Bridge.Promise) : Activity Unit :=
  modify fun p => p.changePromise i f

def modifyEnvironment (e : EnvironmentId) (f : Environment → Environment) : Activity Unit :=
  modify fun p => p.changeEnvironment e f

end Activity

end EmbeddedPython
