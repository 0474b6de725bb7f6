import EmbeddedPython.Bridge.Queue

/-
  The driver

  A driver runs the loop of the interpreter until something stops it, handles
  all requests in order, looks at each of its tasks, and begins again, unless
  it has been told to stop and has no tasks left. `step` makes the next move;
  other threads may act between two moves.
-/

namespace EmbeddedPython.Bridge

open Activity Process

/-- Wraps a coroutine in a task that stops the loop when it is done. The answer is the task with
its `done` method. When the task cannot be set up it is cancelled. -/
def startTask (b : DriverBindings) (coroutine : Handle) : Op (Handle × Handle) := do
  let task ← b.ensureFuture.callWithKeywords [coroutine] ["loop"] [b.object] none
  let prepared ← Op.attempt do
    (← task.callMethod "add_done_callback" [b.stopOnDone]).drop
    task.getAttr "done"
  match prepared with
  | .ok done => pure (task, done)
  | .error e => do
    match (← Op.attempt (task.callMethod "cancel" [])) with
    | .ok result => result.drop
    | .error _ => Op.note (.warning "failed to cancel partially started task")
    task.drop
    Op.fail e

/-- Whether the object that a call returned is true. -/
def isTrue (call : Op Handle) : Op Bool := do Handle.spend (← call) fun x => x.isTruthy

/-- What a task came to, once it is done. A cancelled task is asked for nothing else, and the
result is asked for only when there is no exception. -/
def Tracked.outcome? (x : Tracked) : Op (Option Outcome) := do
  if !(← isTrue (x.done.call [])) then pure none
  else if ← isTrue (x.task.callMethod "cancelled" []) then pure (some (.error .canceled))
  else
    let raised ← Handle.spend (← x.task.callMethod "exception" []) fun e => do
      if e.isNone then pure none
      else do pure (some (← PythonError.ofException e))
    match raised with
    | some e => pure (some (.error (.python e)))
    | none => do pure (some (← Op.attempt (x.task.callMethod "result" [])))

/-- Asks for the cancellation of a task. The task may take it or not. -/
def cancelTask (t : ThreadId) (x : Tracked) : Activity Unit := do
  giveUp x.registration
  match (← ask t (do (← x.task.callMethod "cancel" []).drop)) with
  | .ok _ => pure ()
  | .error _ => note (.warning "failed to cancel asyncio task")

/-- A task whose registration has been given up. -/
def Tracked.withdrawn (x : Tracked) : Tracked := { x with registration := .nothing }

/-- Lets go of a task. -/
def Tracked.drop (x : Tracked) : Op Unit := do
  x.task.drop
  x.done.drop

/-! Moves -/

/-- Fails all tasks because the loop itself failed. -/
def failAll (l : LoopId) (e : Error) : Activity Unit := do
  let t := driverThread l
  note (.error "event loop failed")
  let tasks := ((← get).loop l).driver.tasks
  tasks.forM fun x => do
    giveUp x.registration
    modify fun p => p.finish l 0 (.error e)
  setPhase l .closing
  tasks.forM fun x => tell t x.drop

/-! Running the loop of the interpreter -/

/-- Changes the loop of the interpreter that a driver runs. -/
def modifyPythonLoop (l : LoopId) (f : Loop → Loop) : Activity Unit :=
  modify fun p => p.changePythonLoop l f

/-- What calling a loop that has been closed raises. -/
def closedLoop : Error := .python ⟨"RuntimeError", "Event loop is closed"⟩

/-- Calls the loop of the interpreter. A loop that has been closed does not run. -/
def enterLoop (l : LoopId) : Activity Unit := do
  match (← get).pythonLoop? l with
  | some { closed := true, .. } => failAll l closedLoop
  | _ => do
    modifyPythonLoop l fun x => { x with running := true }
    setPhase l .looping

/-- Begins an iteration, which runs what is ready now. The answer is whether there was anything to
do: a loop that nothing is ready in waits, unless it has been told to stop. -/
def beginIteration (l : LoopId) : Activity Bool := do
  match (← get).pythonLoop? l with
  | some x =>
    if x.stopping || !x.ready.isEmpty then
      setPhase l (.iterating x.ready.length)
      pure true
    else pure false
  | none => pure false

/-- Ends an iteration. After one in which the loop was told to stop it returns. -/
def endIteration (l : LoopId) : Activity Unit := do
  match (← get).pythonLoop? l with
  | some { stopping := true, .. } => do
    modifyPythonLoop l fun x => { x with stopping := false, running := false }
    setPhase l .draining
  | _ => setPhase l .looping

/-- Runs the next entry of an iteration. What an entry raises out of the loop ends it. -/
def runNext (l : LoopId) (left : Nat) : Activity Unit := do
  match (← get).pythonLoop? l with
  | some { ready := entry :: rest, .. } => do
    let r := ((← get).loop l).driver.bindings.object.ref
    modifyPythonLoop l fun x => { x with ready := rest }
    match (← ask (driverThread l) (Op.ask [r] (Eval.runReady Machine.top r entry))) with
    | .ok _ => setPhase l (.iterating left)
    | .error e => do
      modifyPythonLoop l fun x => { x with stopping := false, running := false }
      failAll l e
  | _ => setPhase l (.iterating 0)

/-! Handling requests -/

/-- Handles a request to stop: from the first on every task is asked to cancel. -/
def stopAll (l : LoopId) : Activity Unit := do
  let d := ((← get).loop l).driver
  if !d.stopping then
    modifyDriver l fun d => { d with stopping := true }
    d.tasks.forM (cancelTask (driverThread l))
    modifyDriver l fun d => { d with tasks := d.tasks.map Tracked.withdrawn }

/-- Handles a request to cancel a task, if it is still there. -/
def cancelOne (l : LoopId) (id : TaskId) : Activity Unit := do
  match ((← get).loop l).driver.tasks.find? (·.id == id) with
  | none => pure ()
  | some x => do
    cancelTask (driverThread l) x
    modifyDriver l fun d =>
      { d with tasks := d.tasks.map fun y => if y.id == id then y.withdrawn else y }

/-- Takes the next request out of the queue and handles it. A coroutine is started later. -/
def drainOne (l : LoopId) : Activity Unit := do
  match ((← get).loop l).requests with
  | [] => setPhase l (.concluding 0)
  | r :: _ => do
    modify fun p => p.drain l
    match r with
    | .schedule .. => pure ()
    | .cancel id => cancelOne l id
    | .stop => stopAll l

/-- Rejects the request that has been taken out. -/
def refuse (l : LoopId) (coroutine : Handle) (promise : PromiseId) (e : Error) :
    Activity Unit := do
  modify fun p => p.reject l promise e
  tell (driverThread l) coroutine.drop

/-- Starts the task of a request, unless the loop is to stop or the task is cancelled already. -/
def startNext (l : LoopId) (coroutine : Handle) (token : Cancellation.Token)
    (promise : PromiseId) : Activity Unit := do
  let p ← get
  let d := (p.loop l).driver
  if d.stopping || token.isRequested p.signals then refuse l coroutine promise .canceled
  else
    set { p with nextTask := p.nextTask + 1 }
    match (← ask (driverThread l) (startTask d.bindings coroutine)) with
    | .ok (task, done) =>
      setPhase l (.registering coroutine token ⟨p.nextTask, task, done, promise, .nothing⟩)
    | .error e => refuse l coroutine promise e

/-- Registers for the cancellation of the task that has been started. -/
def registerNext (l : LoopId) (coroutine : Handle) (token : Cancellation.Token)
    (x : Tracked) : Activity Unit := do
  let registration ← registerCancel (driverThread l) token ⟨l, x.id⟩
  setPhase l (.accepting coroutine { x with registration := registration })

/-- Tells the caller of the task that has been started. When nobody waits for it any more it is
cancelled. -/
def acceptNext (l : LoopId) (coroutine : Handle) (x : Tracked) : Activity Unit := do
  let awaited := ((← get).promise x.promise).awaited
  modify fun p => p.accept l x
  if !awaited then cancelOne l x.id
  tell (driverThread l) coroutine.drop

/-- Looks at a task. Behind the last one the driver begins again, or leaves when it has been told to
stop and has none left. -/
def concludeNext (l : LoopId) (next : Nat) : Activity Unit := do
  let t := driverThread l
  let d := ((← get).loop l).driver
  match d.tasks[next]? with
  | none => setPhase l (if d.stopping && d.tasks.isEmpty then .closing else .entering)
  | some x =>
    let outcome ← match (← ask t x.outcome?) with
      | .ok o => pure o
      | .error e => pure (some (.error e))
    match outcome with
    | none => setPhase l (.concluding (next + 1))
    | some o => do
      giveUp x.registration
      let kept ← keepOutcome t x.promise o
      modify fun p => p.finish l next kept
      tell t x.drop

/-- Closes the queue and lets go of everything. The environment counts the driver no more. -/
def leave (l : LoopId) : Activity Unit := do
  let t := driverThread l
  close t l .eventLoopClosed
  let b := ((← get).loop l).driver.bindings
  tell t do
    b.object.drop
    b.runForever.drop
    b.ensureFuture.drop
    b.stopOnDone.drop
    Op.release
  modify fun p => p.exit l

/-- Makes the next move of the driver of a loop. The answer is whether there was one to make: a
driver in a loop with nothing ready waits. -/
def step (l : LoopId) : Activity Bool := do
  match ((← get).loop l).driver.phase with
  | .entering => do
    enterLoop l
    pure true
  | .looping => beginIteration l
  | .iterating 0 => do
    endIteration l
    pure true
  | .iterating (left + 1) => do
    runNext l left
    pure true
  | .draining => do
    drainOne l
    pure true
  | .starting coroutine token promise => do
    startNext l coroutine token promise
    pure true
  | .registering coroutine token x => do
    registerNext l coroutine token x
    pure true
  | .accepting coroutine x => do
    acceptNext l coroutine x
    pure true
  | .concluding next => do
    concludeNext l next
    pure true
  | .closing => do
    leave l
    pure true
  | .exited => pure false

/-- Makes moves of one driver until it waits, but no more than so many. -/
def runDriver (l : LoopId) : Nat → Activity Unit
  | 0 => pure ()
  | fuel + 1 => do if ← step l then runDriver l fuel

/-- How many moves the drivers may make in a row. -/
def moveBound : Nat := 1000000

/-- Makes moves of all drivers until each of them waits. -/
def runDrivers : Nat → Activity Unit
  | 0 => pure ()
  | rounds + 1 => do
    let moved ← (List.range (← get).loops.size).foldlM (fun moved l => do
      let now ← step l
      runDriver l moveBound
      pure (moved || now)) false
    if moved then runDrivers rounds

end EmbeddedPython.Bridge
