import EmbeddedPython.Asyncio.Coroutine
import EmbeddedPython.Interpreter.Execution

/-
  Tasks and the running of loops

  A task resumes its coroutine step by step. What the coroutine hands out says
  when the next step comes: at once, or when a future is done. A loop runs in
  iterations; each runs exactly the entries that were ready when it began.
-/

namespace EmbeddedPython

namespace Eval

/-- Whether an exception leaves the loop that it is raised in. -/
def leavesLoop (e : Ref) : Eval Bool := do
  let memory ← memory
  pure (memory.isException e .systemExit || memory.isException e .keyboardInterrupt)

/-- Whether an object is a future, or looks like one. -/
def isFutureLike (m : Machine) (r : Ref) : Eval Bool := do
  match (← memory).find ((← memory).classOf r) "_asyncio_future_blocking" with
  | none => pure false
  | some _ => do pure ((← getAttr m r "_asyncio_future_blocking") != Ref.none)

/-- The loop of a future, or of something that looks like one. -/
def loopOfFuture (m : Machine) (r : Ref) : Eval Ref := do
  match (← futureOf? r) with
  | some f => pure f.loop
  | none =>
    match (← getAttr? m r "get_loop") with
    | some f => m.call f [] []
    | none => getAttr m r "_loop"

/-- Makes a task that runs a coroutine on a loop; its first step is put into the ready queue. -/
def newTask (loop coroutine : Ref) : Eval Ref := do
  let task ← make .task (.future ⟨loop, .pending, [], [], some ⟨coroutine, false, none⟩⟩)
  callSoon loop (.step task none)
  pure task

/-- Whether a future can be awaited by a step: it says so when it is handed out. -/
def isBlocking (m : Machine) (r : Ref) : Eval Bool := do
  match (← futureOf? r) with
  | some _ => pure true
  | none =>
    match (← getAttr? m r "_asyncio_future_blocking") with
    | some b => truth m b
    | none => pure false

/-- Raises an error in the next step of a task. -/
def failNextStep (loop task : Ref) (text : Text) : Eval Unit := do
  let e ← newException .runtimeError [← newText text]
  callSoon loop (.step task (some e))

/-- Decides when the next step of a task comes, by what its coroutine handed out. -/
def followUp (m : Machine) (loop task handed : Ref) : Eval Unit := do
  if handed == task then
    failNextStep loop task (("Task cannot await on itself: " : Text) ++ (← m.repr task))
  else if ← isFutureLike m handed then
    let otherLoop ← loopOfFuture m handed
    if otherLoop != loop then
      failNextStep loop task (("Task " : Text) ++ (← m.repr task) ++ " got Future "
        ++ (← m.repr handed) ++ " attached to a different loop")
    else if ← isBlocking m handed then
      addCallback handed (.wakeUp task)
      modifyTask task fun t => { t with waitsFor := some handed }
      match (← futureOf? task) with
      | some { task := some t, .. } =>
        if t.mustCancel then
          if ← cancelFuture m waitDepth handed then
            modifyTask task fun t => { t with mustCancel := false }
      | _ => pure ()
    else
      failNextStep loop task (("yield was used instead of yield from in task " : Text)
        ++ (← m.repr task) ++ " with " ++ (← m.repr handed))
  else if handed == Ref.none then callSoon loop (.step task none)
  else
    failNextStep loop task (("Task got bad yield: " : Text) ++ (← m.repr handed))

def setCurrentTask (task : Option Ref) : Eval Unit :=
  note (fun m => { m with currentTask := task }) (fun _ => rfl) fun _ => rfl

def setRunningLoop (loop : Option Ref) : Eval Unit :=
  note (fun m => { m with runningLoop := loop }) (fun _ => rfl) fun _ => rfl

/-- Runs one step of a task. -/
def stepTask (m : Machine) (task : Ref) (exception : Option Ref) : Eval Unit := do
  match (← futureOf? task) with
  | some { loop, outcome := .pending, task := some t, .. } =>
    let exception ← if t.mustCancel then
        match exception with
        | some e => if ← isCancellation e then pure (some e) else do pure (some (← newCancelled))
        | none => do pure (some (← newCancelled))
      else pure exception
    modifyTask task fun t => { t with mustCancel := false, waitsFor := none }
    let before := (← memory).currentTask
    setCurrentTask (some task)
    let how : Resumption := match exception with
      | some e => .throw e
      | none => .send Ref.none
    let result ← caught (resume m t.coroutine how)
    setCurrentTask before
    match result with
    | .ok (.returned v) =>
      match (← futureOf? task) with
      | some { task := some t, .. } =>
        if t.mustCancel then
          modifyTask task fun t => { t with mustCancel := false }
          finishFuture task .cancelled FutureOutcome.isDone_cancelled
        else finishFuture task (.result v) (FutureOutcome.isDone_result v)
      | _ => pure ()
    | .ok (.yielded r) => followUp m loop task r
    | .error e =>
      if ← isCancellation e then finishFuture task .cancelled FutureOutcome.isDone_cancelled
      else
        finishFuture task (.failed e) (FutureOutcome.isDone_failed e)
        if ← leavesLoop e then throw e
  | _ => pure ()

/-- Wakes a task because a future that it waits for is done. -/
def wakeTask (m : Machine) (task future : Ref) : Eval Unit := do
  match (← caught (futureResult future)) with
  | .ok _ => stepTask m task none
  | .error e => stepTask m task (some e)

/-- Runs an entry of a ready queue. What it raises is dropped, unless it leaves the loop. -/
def runEntry (m : Machine) (entry : Scheduled) : Eval Unit := do
  let body : Eval Unit := match entry with
    | .call f arguments => do
      let _ ← m.call f arguments []
      pure ()
    | .step task exception => stepTask m task exception
    | .wakeUp task future => wakeTask m task future
  tryCatch body fun e => do if ← leavesLoop e then throw e

/-- Runs an entry of the ready queue of a loop as part of that loop. -/
def runReady (m : Machine) (loop : Ref) (entry : Scheduled) : Eval Unit := do
  let before := (← memory).runningLoop
  setRunningLoop (some loop)
  let result ← caught (runEntry m entry)
  setRunningLoop before
  match result with
  | .ok _ => pure ()
  | .error e => throw e

/-- The task or future that an awaitable is scheduled as on a loop. -/
def ensureFuture (m : Machine) (awaitable loop : Ref) : Eval Ref := do
  if ← isFutureLike m awaitable then
    if (← loopOfFuture m awaitable) != loop then
      valueError
        "The future belongs to a different loop than the one specified as the loop argument"
    else pure awaitable
  else
    let isCoroutine := match (← valueOf awaitable) with
      | .coroutine _ => true
      | _ => false
    let coroutine ← if isCoroutine then pure awaitable
      else if (← special awaitable "__await__").isSome then
        make .generator (.coroutine ⟨.created, [.wrapping awaitable]⟩)
      else typeError "An asyncio.Future, a coroutine or an awaitable is required"
    match (← loopOf? loop) with
    | some l =>
      if l.closed then loopClosed
      else newTask loop coroutine
    | none => newTask loop coroutine

end Eval

end EmbeddedPython
