import EmbeddedPython.Object.Blueprint

/-
  Coroutines, futures and loops as objects

  A suspended coroutine is a stack of frames, innermost first. A frame is a
  body with the steps it has left, something that guards the frames above it,
  or a wait. The frames of an asynchronous generator are put on the stack of
  whoever awaits its next item and taken off again when it yields one.
-/

namespace EmbeddedPython

/-- How a body came to its end. -/
inductive Completion where
  | normal
  | returned (value : Ref)
  | raised (exception : Ref)
  deriving DecidableEq, Repr, Inhabited

/-- A frame of a coroutine. -/
inductive Frame where
  /-- a body with the steps it has left -/
  | steps (rest : List Step)
  /-- what to run when a cancellation comes out of the frames above -/
  | guarded (handler : List Step) (again : Bool)
  /-- a handler is running, and raises the cancellation again if told so -/
  | handling (again : Bool) (exception : Ref)
  /-- what to run when the frames above have ended in any way -/
  | cleanup (final : List Step)
  /-- the final steps are running; afterwards the body ends as it did -/
  | cleaning (pending : Completion)
  | repeating (left : Nat) (body : List Step)
  /-- the outermost frame of an awaited coroutine, whose value is logged if told so -/
  | awaited (logged : Bool)
  /-- gives way to the loop so many times more -/
  | pausing (left : Nat)
  | waiting (future : Ref) (label : Option String)
  | stubborn (gate : String) (future : Ref)
  /-- an asynchronous generator with the steps it has left -/
  | generating (rest : List Step)
  /-- the outermost frame of a generator that has been asked for an item -/
  | item (generator : Ref)
  /-- an object to be awaited in the first step of its own task -/
  | wrapping (awaitable : Ref)
  /-- an iterator whose items are handed to the task -/
  | iterating (iterator : Ref)
  /-- a pause of a given length that returns a value -/
  | sleeping (delay value : Ref)
  deriving Inhabited

inductive Phase where
  | created
  | suspended
  | running
  | finished
  deriving DecidableEq, Repr, Inhabited

/-- A coroutine or an asynchronous generator. -/
structure Coroutine where
  phase : Phase
  frames : List Frame
  deriving Inhabited

/-- How a future stands. -/
inductive FutureOutcome where
  | pending
  | cancelled
  | result (value : Ref)
  | failed (exception : Ref)
  deriving DecidableEq, Repr, Inhabited

/-- What a future calls when it is done. -/
inductive Callback where
  | call (function : Ref)
  | wakeUp (task : Ref)
  deriving DecidableEq, Repr, Inhabited

/-- What makes a future a task. -/
structure Task where
  coroutine : Ref
  /-- a cancellation is to be thrown in the next step -/
  mustCancel : Bool
  /-- the future that the coroutine waits for -/
  waitsFor : Option Ref
  deriving DecidableEq, Repr, Inhabited

structure Future where
  loop : Ref
  outcome : FutureOutcome
  callbacks : List Callback
  /-- the callbacks that programs have taken off -/
  removed : List Callback
  task : Option Task
  deriving DecidableEq, Repr, Inhabited

/-- An entry of the ready queue of a loop. -/
inductive Scheduled where
  | call (function : Ref) (arguments : List Ref)
  | step (task : Ref) (exception : Option Ref)
  | wakeUp (task future : Ref)
  deriving DecidableEq, Repr, Inhabited

/-- An event loop: its ready queue, the stop flag, and what its coroutines logged. -/
structure Loop where
  ready : List Scheduled
  stopping : Bool
  closed : Bool
  /-- whether a thread runs it -/
  running : Bool
  log : List String
  deriving DecidableEq, Repr, Inhabited

namespace Completion

def references : Completion → List Ref
  | normal => []
  | returned r | raised r => [r]

end Completion

namespace Frame

/-- The objects that a frame holds on to. -/
def references : Frame → List Ref
  | steps rest | generating rest | cleanup rest => Step.referencesAll rest
  | guarded handler _ => Step.referencesAll handler
  | handling _ exception => [exception]
  | cleaning pending => pending.references
  | repeating _ body => Step.referencesAll body
  | awaited _ | pausing _ => []
  | waiting r _ | stubborn _ r | item r | wrapping r | iterating r => [r]
  | sleeping delay value => [delay, value]

end Frame

namespace Coroutine

def references (c : Coroutine) : List Ref := c.frames.flatMap Frame.references

end Coroutine

namespace FutureOutcome

def references : FutureOutcome → List Ref
  | pending | cancelled => []
  | result r | failed r => [r]

def isDone : FutureOutcome → Bool
  | pending => false
  | _ => true

@[simp] theorem isDone_cancelled : FutureOutcome.cancelled.isDone = true := rfl

@[simp] theorem isDone_result (v : Ref) : (FutureOutcome.result v).isDone = true := rfl

@[simp] theorem isDone_failed (e : Ref) : (FutureOutcome.failed e).isDone = true := rfl

end FutureOutcome

namespace Callback

def references : Callback → List Ref
  | call r | wakeUp r => [r]

/-- The entry that a callback of a future makes in the ready queue. -/
def entry (future : Ref) : Callback → Scheduled
  | call f => .call f [future]
  | wakeUp task => .wakeUp task future

end Callback

namespace Task

def references (t : Task) : List Ref := t.coroutine :: t.waitsFor.toList

end Task

namespace Future

def references (f : Future) : List Ref :=
  f.loop :: f.outcome.references ++ f.callbacks.flatMap Callback.references
    ++ (f.task.map Task.references).getD []

end Future

namespace Scheduled

def references : Scheduled → List Ref
  | call function arguments => function :: arguments
  | step task exception => task :: exception.toList
  | wakeUp task future => [task, future]

end Scheduled

namespace Loop

/-- A loop that has not run yet. -/
def fresh : Loop := ⟨[], false, false, false, []⟩

def references (l : Loop) : List Ref := l.ready.flatMap Scheduled.references

end Loop

end EmbeddedPython
