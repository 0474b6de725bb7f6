import EmbeddedPython.Bridge.Driver

/-
  Event loops

  The host opens a loop, submits awaitables to it and disposes of it. Disposal
  asks the driver to stop, waits for it to leave, and closes the loop of the
  interpreter; a driver that does not leave in time keeps running.
-/

namespace EmbeddedPython.Bridge

open Activity Process

/-- The objects of a new loop: the loop, the notifier, and what the driver needs. -/
def loopObjects (b : Bindings) : Op (Handle × Notifier × DriverBindings) := Op.guarded do
  let object ← b.newEventLoop.call []
  Op.onFailure
    (do
      let callSoon ← object.getAttr "call_soon_threadsafe"
      let stop ← object.getAttr "stop"
      let shared ← object.clone
      let runForever ← object.getAttr "run_forever"
      let ensureFuture ← b.ensureFuture.clone
      let stopOnDone ← b.stopOnDone.clone
      pure (object, ⟨callSoon, stop⟩, ⟨shared, runForever, ensureFuture, stopOnDone⟩))
    object.drop

/-- Opens a loop of an environment and starts its driver. -/
def openLoop (t : ThreadId) (e : EnvironmentId) : Activity (Except Error LoopId) := do
  let p ← get
  let environment := p.environment e
  match environment.bindings with
  | none => pure (.error .notInitialized)
  | some b => do
    match (← ask t (loopObjects b)) with
    | .error error => pure (.error error)
    | .ok (object, notifier, bindings) => do
      let l := (← get).loops.size
      modify fun p => p.addLoop {
        environment := e, object, requests := [], notifier := some notifier,
        limit := environment.options.shutdownTimeout, disposed := false, owners := 1,
        driver := ⟨bindings, [], false, .entering⟩ }
      tell (driverThread l) Op.acquire
      pure (.ok l)

/-- The default loop of an environment, opened on first use. -/
def defaultLoop (t : ThreadId) (e : EnvironmentId) : Activity (Except Error LoopId) := do
  match ((← get).environment e).defaultLoop with
  | some l => pure (.ok l)
  | none => do
    match (← openLoop t e) with
    | .error error => pure (.error error)
    | .ok l => do
      modifyEnvironment e fun x => { x with defaultLoop := some l }
      pure (.ok l)

def setLimit (l : LoopId) (limit : Duration) : Activity Unit :=
  modifyLoop l fun x => { x with limit := limit }

/-- Makes the request for an awaitable, with the promise of its outcome. -/
def prepare (t : ThreadId) (l : LoopId) (awaitable : Handle) (token : Cancellation.Token) :
    Activity (Except Error (Request × PromiseId)) := do
  if ((← get).loop l).disposed then pure (.error .eventLoopDisposed)
  else
    match (← ask t (awaitable.hasAttr "__await__")) with
    | .error e => pure (.error e)
    | .ok false => do
      match (← ask t (Op.orElse unknownType awaitable.typeName)) with
      | .ok name => pure (.error (.notAwaitable name))
      | .error e => pure (.error e)
    | .ok true => do
      match (← ask t awaitable.clone) with
      | .error e => pure (.error e)
      | .ok coroutine => do
        let promise ← newPromise
        pure (.ok (.schedule coroutine token promise, promise))

/-- Submits an awaitable to a loop. The answer is the promise of its outcome. -/
def submit (t : ThreadId) (l : LoopId) (awaitable : Handle) (token : Cancellation.Token) :
    Activity (Except Error PromiseId) := do
  match (← prepare t l awaitable token) with
  | .error e => pure (.error e)
  | .ok (request, promise) => do
    if ← enqueue t l request then pure (.ok promise)
    else do
      discard t request .eventLoopClosed
      pure (.error .eventLoopClosed)

/-! Disposal -/

/-- Marks a loop as disposed of. The answer is whether its driver is to be stopped and waited for:
only the first disposal does anything, and nothing is left to do without an interpreter. -/
def markDisposed (l : LoopId) : Activity Bool := do
  let p ← get
  if (p.loop l).disposed then pure false
  else
    modifyLoop l fun x => { x with disposed := true }
    pure p.host.lock.alive

/-- Begins to dispose of a loop. The answer is whether the driver has to be waited for. -/
def beginDispose (t : ThreadId) (l : LoopId) : Activity Bool := do
  if ← markDisposed l then
    let _ ← enqueue t l .stop
    pure true
  else pure false

/-- Ends the disposal of a loop, after its driver has left or the time is up. -/
def endDispose (t : ThreadId) (l : LoopId) : Activity (Except Error Unit) := do
  let x := (← get).loop l
  if x.driver.phase = .exited then
    close t l .eventLoopClosed
    ask t (Op.guarded do (← x.object.callMethod "close" []).drop)
  else
    note (.error "event loop driver did not exit in time")
    pure (.error (.shutdownTimeout x.limit))

/-- Disposes of a loop; all drivers make their moves while it waits. -/
def dispose (t : ThreadId) (l : LoopId) : Activity (Except Error Unit) := do
  if ← beginDispose t l then
    runDrivers moveBound
    endDispose t l
  else pure (.ok ())

/-- Reports that a disposal nobody looks at failed. -/
def noteDisposal (result : Except Error Unit) : Activity Unit := do
  match result with
  | .ok _ => pure ()
  | .error _ => note (.error "failed to dispose event loop")

/-- Lets go of what the owners of a loop held. -/
def releaseLoop (t : ThreadId) (l : LoopId) : Activity Unit := do
  tell t ((← get).loop l).object.drop

/-- Adds an owner of a loop. -/
def share (l : LoopId) : Activity Unit := modifyLoop l fun x => { x with owners := x.owners + 1 }

/-- Gives up an ownership of a loop. The answer is whether it was the last one. -/
def disown (l : LoopId) : Activity Bool := do
  modifyLoop l fun x => { x with owners := x.owners - 1 }
  pure (((← get).loop l).owners == 0)

/-- Drops an ownership of a loop; with the last one the loop is disposed of. -/
def dropLoop (t : ThreadId) (l : LoopId) : Activity Unit := do
  if ← disown l then
    noteDisposal (← dispose t l)
    releaseLoop t l

/-- The described form of a loop. -/
def EventLoop.describe (x : EventLoop) : String :=
  Text.record "EventLoop" [("disposed", Text.ofBool x.disposed),
    ("shutdown_timeout", x.limit.describe)]

end EmbeddedPython.Bridge
