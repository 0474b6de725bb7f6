import EmbeddedPython.Interpreter.Representation

/-
  Futures

  A future is pending until it is given a result or an exception or is
  cancelled, which happens once. Then its callbacks are put into the ready
  queue of its loop, in the order in which they were added. A task is a future
  that a coroutine determines; cancelling it asks the coroutine.
-/

namespace EmbeddedPython

namespace Eval

/-! Loops -/

/-- The loop that a reference is to. -/
def loopOf? (r : Ref) : Eval (Option Loop) := do
  match (← valueOf r) with
  | .loop l => pure (some l)
  | _ => pure none

/-- Changes a loop by its rules. -/
def modifyLoop (r : Ref) (f : Loop → Loop) (becomes : ∀ x : Loop, x.Becomes (f x)) : Eval Unit :=
  update (·.changeLoop r f) fun m => .changeLoop m r becomes

/-- Tells a loop to stop. -/
def stopLoop (r : Ref) : Eval Unit := modifyLoop r (fun x => { x with stopping := true }) .stop

/-- Closes a loop, unless it runs. -/
def closeLoop (r : Ref) : Eval Unit :=
  modifyLoop r (fun x => if x.running then x else { x with closed := true, ready := [] }) .close

def loopClosed {α : Type} : Eval α := raise .runtimeError "Event loop is closed"

/-- Puts an entry into the ready queue of a loop. -/
def callSoon (loop : Ref) (entry : Scheduled) : Eval Unit := do
  match (← loopOf? loop) with
  | some { closed := true, .. } => loopClosed
  | _ => update (·.schedule loop [entry]) (.schedule · loop [entry])

/-- Writes into the log of the running loop. -/
def logText (text : String) : Eval Unit := do
  match (← memory).runningLoop with
  | some loop => modifyLoop loop (fun x => { x with log := x.log ++ [text] }) fun x => .write x _
  | none => pure ()

/-! Futures -/

def futureOf? (r : Ref) : Eval (Option Future) := do
  match (← valueOf r) with
  | .future f => pure (some f)
  | _ => pure none

/-- Changes a future without giving it an outcome. -/
def modifyFuture (r : Ref) (f : Future → Future) (amends : ∀ x : Future, x.Amends (f x)) :
    Eval Unit :=
  update (·.changeFuture r f) fun m => .changeFuture m r amends

def modifyTask (r : Ref) (f : Task → Task) : Eval Unit :=
  modifyFuture r (fun x => { x with task := x.task.map f }) fun x => .task x _

def invalidState {α : Type} (text : String) : Eval α := raise .invalidStateError text

/-- Gives a future its outcome and schedules its callbacks. -/
def finishFuture (r : Ref) (outcome : FutureOutcome) (done : outcome.isDone = true) :
    Eval Unit := do
  match (← futureOf? r) with
  | none => pure ()
  | some f =>
    update (·.finish r outcome) (.finish · r done)
    if !f.callbacks.isEmpty then
      match (← loopOf? f.loop) with
      | some { closed := true, .. } => loopClosed
      | _ => pure ()

/-- Adds a callback, which is scheduled at once if the future is done already. -/
def addCallback (r : Ref) (c : Callback) : Eval Unit := do
  match (← futureOf? r) with
  | none => pure ()
  | some f =>
    if f.outcome.isDone then callSoon f.loop (c.entry r)
    else modifyFuture r (fun f => { f with callbacks := f.callbacks ++ [c] }) (.add · c)

/-- Whether a future is to get its outcome yet. -/
def isPending (r : Ref) : Eval Bool := do
  pure ((← futureOf? r).any fun f => !f.outcome.isDone)

def setResult (r value : Ref) : Eval Unit := do
  match (← futureOf? r) with
  | none => pure ()
  | some f =>
    if f.outcome.isDone then invalidState "invalid state"
    else finishFuture r (.result value) (FutureOutcome.isDone_result value)

/-- Gives a future an exception, or an instance of a class of exceptions. -/
def setException (m : Machine) (r exception : Ref) : Eval Unit := do
  match (← futureOf? r) with
  | none => pure ()
  | some f =>
    if f.outcome.isDone then invalidState "invalid state"
    else
      let e ← if ((← memory).class? exception).isSome then m.call exception [] []
        else pure exception
      let memory ← memory
      -- making the exception may have given the future its outcome
      if !(← isPending r) then invalidState "invalid state"
      else if !memory.isException e .baseException then typeError "invalid exception object"
      else if memory.isException e .stopIteration then
        typeError "StopIteration interacts badly with generators and cannot be raised into a Future"
      else finishFuture r (.failed e) (FutureOutcome.isDone_failed e)

/-- An error of cancellation. -/
def newCancelled : Eval Ref := newException .cancelledError []

/-- The result of a future, or its exception. -/
def futureResult (r : Ref) : Eval Ref := do
  match (← futureOf? r) with
  | none => pure Ref.none
  | some f =>
    match f.outcome with
    | .pending => invalidState "Result is not set."
    | .cancelled => throw (← newCancelled)
    | .result v => pure v
    | .failed e => throw e

/-- The exception of a future, or none. -/
def futureException (r : Ref) : Eval Ref := do
  match (← futureOf? r) with
  | none => pure Ref.none
  | some f =>
    match f.outcome with
    | .pending => invalidState "Exception is not set."
    | .cancelled => throw (← newCancelled)
    | .result _ => pure Ref.none
    | .failed e => pure e

/-- Cancels a future, unless it is done. The cancellation of a task goes to what the task waits
for, or to its next step. -/
def cancelFuture (m : Machine) : Nat → Ref → Eval Bool
  | 0, _ => pure false
  | depth + 1, r => do
    match (← futureOf? r) with
    | none => do truth m (← m.call (← getAttr m r "cancel") [] [])
    | some f =>
      if f.outcome.isDone then pure false
      else
        match f.task with
        | none => do
          finishFuture r .cancelled FutureOutcome.isDone_cancelled
          pure true
        | some t =>
          let passedOn ← match t.waitsFor with
            | some waited => cancelFuture m depth waited
            | none => pure false
          if !passedOn then
            modifyTask r fun t => { t with mustCancel := true }
          pure true

/-- How many tasks may wait for each other in a row. -/
def waitDepth : Nat := 1000

/-! Gates -/

/-- The gate of a name; it is closed at first. -/
def gateOf (name : String) : Eval Gate := do
  pure (((← memory).gates.lookup name).getD ⟨.closed, []⟩)

def setGate (name : String) (gate : Gate) : Eval Unit :=
  note (fun m => { m with
    gates := if (m.gates.lookup name).isSome then
        m.gates.map fun g => if g.1 == name then (name, gate) else g
      else m.gates ++ [(name, gate)] }) (fun _ => rfl) fun _ => rfl

/-- Whether a future can still be woken. -/
def canWake (r : Ref) : Eval Bool := do
  match (← futureOf? r) with
  | none => pure false
  | some f =>
    match (← loopOf? f.loop) with
    | some l => pure (!f.outcome.isDone && !l.closed)
    | none => pure false

/-- Opens a gate for a value, or makes it fail with an exception. A gate is opened once. -/
def openGate (name : String) (state : GateState) : Eval Unit := do
  let gate ← gateOf name
  if gate.state = .closed then
    setGate name ⟨state, []⟩
    gate.waiters.forM fun waiter => do
      if ← canWake waiter then
        match state with
        | .closed => pure ()
        | .opened v => finishFuture waiter (.result v) (FutureOutcome.isDone_result v)
        | .failed e => finishFuture waiter (.failed e) (FutureOutcome.isDone_failed e)

/-- What waiting at a gate comes to: its value, or a future to wait for. -/
def enterGate (loop : Ref) (name : String) : Eval (Except Ref Ref) := do
  let gate ← gateOf name
  match gate.state with
  | .opened v => pure (.ok v)
  | .failed e => throw e
  | .closed => do
    let future ← make .future (.future ⟨loop, .pending, [], [], none⟩)
    setGate name { gate with waiters := gate.waiters ++ [future] }
    pure (.error future)

end Eval

end EmbeddedPython
