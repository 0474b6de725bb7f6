import EmbeddedPython.Bridge.Books

/-
  The request queue

  A push puts a request at the end of the queue and leaves a wake-up to be
  done: the two are separate steps, and anything may happen between them. A
  closed queue takes nothing any more.
-/

namespace EmbeddedPython.Bridge

open Activity

/-! Promises -/

/-- Makes a promise that somebody waits for. -/
def newPromise : Activity PromiseId := do
  let p ← get
  set { p with promises := p.promises.push ⟨.submitted, true⟩ }
  pure p.promises.size

/-- What is left of an outcome. Without anybody waiting the object is given back at once. -/
def keepOutcome (t : ThreadId) (i : PromiseId) (outcome : Outcome) : Activity Outcome := do
  match outcome, ((← get).promise i).awaited with
  | .ok x, false => ask t x.dispose
  | o, _ => pure o

/-- Stops waiting for a promise. -/
def abandon (t : ThreadId) (i : PromiseId) : Activity Unit := do
  modifyPromise i fun x => { x with awaited := false }
  match ((← get).promise i).stage with
  | .settled (.ok x) => tell t x.drop
  | _ => pure ()

/-- The outcome of a promise, as soon as there is one. -/
def settled? (p : Process) (i : PromiseId) : Option Outcome :=
  match (p.promise i).stage with
  | .settled outcome => some outcome
  | _ => none

/-! Requests -/

/-- What a push came to. -/
inductive Pushed where
  | refused
  /-- the request is queued, and the driver is to be woken -/
  | queued (wakeUp : Option Notifier)
  deriving Inhabited

/-- Whether a thread can take the lock. -/
def canLock (p : Process) (t : ThreadId) : Bool := p.host.lock.isAcquired t || p.host.lock.alive

/-- Puts a request at the end of a queue. -/
def push (t : ThreadId) (l : LoopId) (r : Request) : Activity Pushed := do
  let p ← get
  match (p.loop l).notifier, canLock p t with
  | some n, true => do
    let bound ← ask t do
      let callSoon ← n.callSoon.clone
      pure (Notifier.mk callSoon (← n.stop.clone))
    modify fun p => p.queue l r
    match bound with
    | .ok wakeUp => pure (.queued (some wakeUp))
    | .error _ => do
      note (.warning "failed to wake event loop driver")
      pure (.queued none)
  | _, _ => pure .refused

/-- Wakes a driver. When its loop has been closed meanwhile nothing needs to be done. -/
def wake (t : ThreadId) (n : Notifier) : Activity Unit :=
  tell t (Op.guarded do
    match (← Op.attempt (n.callSoon.call [n.stop])) with
    | .ok result => result.drop
    | .error _ => pure ()
    n.stop.drop
    n.callSoon.drop)

/-- Puts a request into a queue and wakes the driver. The answer is whether the queue took it. -/
def enqueue (t : ThreadId) (l : LoopId) (r : Request) : Activity Bool := do
  match (← push t l r) with
  | .refused => pure false
  | .queued none => pure true
  | .queued (some n) => do
    wake t n
    pure true

/-- Lets go of the coroutine of a request. -/
def Request.drop : Request → Op Unit
  | schedule coroutine _ _ => coroutine.drop
  | _ => pure ()

/-- Gives up a request that no queue took. -/
def discard (t : ThreadId) (r : Request) (e : Error) : Activity Unit := do
  modify fun p => p.answer r e
  tell t r.drop

/-- Takes the next request out of a queue that is closed. -/
def clearNext (t : ThreadId) (l : LoopId) (e : Error) : Activity Unit := do
  match ((← get).loop l).requests with
  | [] => pure ()
  | r :: _ => do
    modify fun p => p.clear l e
    tell t r.drop

/-- Closes a queue and rejects everything in it. -/
def close (t : ThreadId) (l : LoopId) (e : Error) : Activity Unit := do
  let x := (← get).loop l
  modifyLoop l fun x => { x with notifier := none }
  match x.notifier with
  | some n => do
    tell t n.callSoon.drop
    tell t n.stop.drop
  | none => pure ()
  x.requests.forM fun _ => clearNext t l e

/-! Cancellation -/

/-- Gives up a registration. The callbacks of the bridge own none themselves. -/
def giveUp (r : Cancellation.Registration) : Activity Unit :=
  modify fun p =>
    match Cancellation.withdraw r p.signals with
    | .done signals => { p with signals := signals }
    | .deadlock _ => p

/-- Asks the loop of a task to cancel it. A closed queue means that the task is gone anyway. -/
def requestCancel (t : ThreadId) (c : CancelCall) : Activity Unit := do
  let _ ← enqueue t c.loop (.cancel c.task)
  pure ()

/-- Registers for the cancellation of a task. On a raised signal it is requested at once. -/
def registerCancel (t : ThreadId) (token : Cancellation.Token) (c : CancelCall) :
    Activity Cancellation.Registration := do
  match token.signal with
  | none => pure .nothing
  | some i => do
    let p ← get
    let (id?, signal) := (p.signals.getD i Cancellation.Signal.fresh).register c []
    set { p with signals := p.signals.setIfInBounds i signal }
    match id? with
    | some id => pure ⟨some i, id⟩
    | none => do
      requestCancel t c
      pure .nothing

/-- Makes a source of cancellation. -/
def newSource : Activity Nat := do
  let p ← get
  set { p with signals := p.signals.push Cancellation.Signal.fresh }
  pure p.signals.size

/-- Raises a signal. The answer is what there is to do for the tasks registered on it, in order. -/
def raiseSignal (i : Nat) : Activity (List CancelCall) := do
  let p ← get
  let (waiting, signal) := (p.signals.getD i Cancellation.Signal.fresh).raise
  set { p with signals := p.signals.setIfInBounds i signal }
  pure (waiting.map (·.callback))

/-- Raises a signal: every task registered on it is asked to cancel. -/
def cancelSource (t : ThreadId) (i : Nat) : Activity Unit := do
  (← raiseSignal i).forM (requestCancel t)

end EmbeddedPython.Bridge
