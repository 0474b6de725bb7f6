import EmbeddedPython.Bridge.Basic

/-
  The books of the bridge

  What happens to a request and to its promise happens in one piece: the queue,
  the driver, the promise and the journal change together. Each of the changes
  below is one of the events of the journal, or a change that is none.
-/

namespace EmbeddedPython

open Bridge

namespace Process

/-- Writes into the journal what has happened to a request. -/
def log (p : Process) (event : Event) (l : LoopId) (i : PromiseId) : Process :=
  { p with journal := ⟨event, l, i⟩ :: p.journal }

/-- Writes into the journal what has happened to a request, if a caller waits for it. -/
def record (p : Process) (event : Event) (l : LoopId) (r : Request) : Process :=
  match r.promise? with
  | some i => p.log event l i
  | none => p

/-- Tells a caller what its request came to. -/
def settle (p : Process) (i : PromiseId) (outcome : Bridge.Outcome) : Process :=
  p.changePromise i fun x => { x with stage := .settled outcome }

/-- Tells the caller of a request what it came to, if there is one. -/
def answer (p : Process) (r : Request) (e : Error) : Process :=
  match r.promise? with
  | some i => p.settle i (.error e)
  | none => p

/-! Changes of a queue -/

/-- Puts a request at the end of a queue. -/
def queue (p : Process) (l : LoopId) (r : Request) : Process :=
  (p.changeLoop l fun x => { x with requests := x.requests ++ [r] }).record .queued l r

/-- What the driver does with a request that it has taken out. -/
def afterDraining : Request → Bridge.Phase
  | .schedule coroutine token promise => .starting coroutine token promise
  | _ => .draining

/-- Takes the next request out of a queue for the driver. -/
def drain (p : Process) (l : LoopId) : Process :=
  match (p.loop l).requests with
  | [] => p
  | r :: rest =>
    (p.changeLoop l fun x => { x with
      requests := rest, driver := { x.driver with phase := afterDraining r } }).record .drained l r

/-- Takes the next request out of a queue that is closed, and rejects it. -/
def clear (p : Process) (l : LoopId) (e : Error) : Process :=
  match (p.loop l).requests with
  | [] => p
  | r :: rest =>
    (((p.changeLoop l fun x => { x with requests := rest }).record .cleared l r).record
      .rejected l r).answer r e

/-! Changes of a driver -/

/-- Rejects the request that the driver has taken out. -/
def reject (p : Process) (l : LoopId) (i : PromiseId) (e : Error) : Process :=
  ((p.changeLoop l fun x => { x with driver := { x.driver with phase := .draining } }).log
    .rejected l i).settle i (.error e)

/-- Keeps track of a task that has been started, and tells the caller. -/
def accept (p : Process) (l : LoopId) (x : Tracked) : Process :=
  ((p.changeLoop l fun y => { y with
      driver := { y.driver with tasks := y.driver.tasks ++ [x], phase := .draining } }).log
    .accepted l x.promise).changePromise x.promise fun y => { y with stage := .accepted }

/-- Tells the caller what a task came to, and keeps track of it no more. -/
def finish (p : Process) (l : LoopId) (n : Nat) (outcome : Bridge.Outcome) : Process :=
  match (p.loop l).driver.tasks[n]? with
  | none => p
  | some x =>
    ((p.changeLoop l fun y => { y with
        driver := { y.driver with tasks := y.driver.tasks.eraseIdx n } }).log
      .finished l x.promise).settle x.promise outcome

/-! The drivers of an environment -/

/-- Adds a loop, whose driver is counted by the environment. -/
def addLoop (p : Process) (x : Bridge.EventLoop) : Process :=
  { p with loops := p.loops.push x }.changeEnvironment x.environment
    fun e => { e with leases := e.leases + 1 }

/-- Ends the driver of a loop, which the environment counts no more. -/
def exit (p : Process) (l : LoopId) : Process :=
  (p.changeLoop l fun x => { x with driver := { x.driver with phase := .exited } }).changeEnvironment
    (p.loop l).environment fun e => { e with leases := e.leases - 1 }

/-! The loop of the interpreter -/

/-- The loop of the interpreter that a driver runs. -/
def pythonLoop? (p : Process) (l : LoopId) : Option Loop :=
  match p.host.memory.valueOf (p.loop l).driver.bindings.object.ref with
  | .loop x => some x
  | _ => none

/-- Changes the loop of the interpreter that a driver runs. -/
def changePythonLoop (p : Process) (l : LoopId) (f : Loop → Loop) : Process :=
  match p.pythonLoop? l with
  | some x => { p with host := { p.host with
      memory := p.host.memory.setValue (p.loop l).driver.bindings.object.ref (.loop (f x)) } }
  | none => p

end Process

end EmbeddedPython
