import EmbeddedPython.Asyncio.Task
import EmbeddedPython.Interpreter.Methods.Text

/-
  Methods of coroutines, futures and loops
-/

namespace EmbeddedPython

namespace Eval

/-- Hands out what a coroutine handed out; its end is a `StopIteration` with its value. -/
def progressOf (p : Progress) : Eval Ref := do
  match p with
  | .yielded r => pure r
  | .returned r => throw (← newException .stopIteration (if r == Ref.none then [] else [r]))

/-- An exception, or an instance of a class of exceptions, to be thrown. -/
def thrown (m : Machine) (r : Ref) : Eval Ref := do
  match (← caught (raiseObject (α := Unit) m r)) with
  | .ok _ => pure r
  | .error e => pure e

def coroutineMethod (m : Machine) (self : Ref) (name : String) (arguments : List Ref) :
    Eval (Option Ref) := do
  match name with
  | "send" => do
    let v ← oneArgument "coroutine" name arguments
    pure (some (← progressOf (← resume m self (.send v))))
  | "throw" => do
    checkCount name 1 3 arguments.length
    let e ← thrown m (arguments.headD Ref.none)
    pure (some (← progressOf (← resume m self (.throw e))))
  | "close" => do
    match (← valueOf self) with
    | .coroutine { phase := .suspended, .. } =>
      let e ← newException .generatorExit []
      match (← caught (resume m self (.throw e))) with
      | .ok (.yielded _) => raise .runtimeError "coroutine ignored GeneratorExit"
      | .ok (.returned _) => pure (some Ref.none)
      | .error x =>
        let memory ← memory
        if memory.isException x .generatorExit || memory.isException x .stopIteration then
          pure (some Ref.none)
        else throw x
    | .coroutine c => do
      setValue self (.coroutine { c with phase := .finished, frames := [] })
      pure (some Ref.none)
    | _ => pure (some Ref.none)
  | "__await__" => pure (some self)
  | _ => pure none

def asyncGeneratorMethod (self : Ref) (name : String) (arguments : List Ref) :
    Eval (Option Ref) := do
  match name with
  | "__aiter__" => do
    noArguments "async_generator" name arguments
    pure (some self)
  | "__anext__" | "asend" => do
    pure (some (← make .asyncGeneratorStep (.asyncGeneratorStep self)))
  | _ => pure none

/-- A method of a future or a task. -/
def futureMethod (m : Machine) (self : Ref) (f : Future) (name : String) (arguments : List Ref) :
    Eval (Option Ref) := do
  let owner := if f.task.isSome then "Task" else "Future"
  let nothing := noArguments ("_asyncio." ++ owner) name arguments
  match name with
  | "done" => do
    nothing
    pure (some (Ref.ofBool f.outcome.isDone))
  | "cancelled" => do
    nothing
    pure (some (Ref.ofBool (f.outcome == .cancelled)))
  | "cancel" => do pure (some (Ref.ofBool (← cancelFuture m waitDepth self)))
  | "result" => do
    nothing
    pure (some (← futureResult self))
  | "exception" => do
    nothing
    pure (some (← futureException self))
  | "add_done_callback" => do
    let callback ← oneArgument owner name arguments
    addCallback self (.call callback)
    pure (some Ref.none)
  | "remove_done_callback" => do
    let callback ← oneArgument owner name arguments
    let taken := f.callbacks.filter (· == .call callback)
    modifyFuture self (·.without (.call callback)) (.remove · _)
    pure (some (← newInt taken.length))
  | "get_loop" => do
    nothing
    pure (some f.loop)
  | "set_result" => do
    let value ← oneArgument owner name arguments
    if f.task.isSome then raise .runtimeError "Task does not support set_result operation"
    else do
      setResult self value
      pure (some Ref.none)
  | "set_exception" => do
    let e ← oneArgument owner name arguments
    if f.task.isSome then raise .runtimeError "Task does not support set_exception operation"
    else do
      setException m self e
      pure (some Ref.none)
  | _ => pure none

/-- A method of a loop. -/
def loopMethod (self : Ref) (l : Loop) (name : String) (arguments : List Ref) :
    Eval (Option Ref) := do
  match name, arguments with
  | "stop", _ => do
    stopLoop self
    pure (some Ref.none)
  | "call_soon", f :: rest | "call_soon_threadsafe", f :: rest => do
    callSoon self (.call f rest)
    pure (some Ref.none)
  | "close", _ => do
    if l.running then raise .runtimeError "Cannot close a running event loop"
    else do
      closeLoop self
      pure (some Ref.none)
  | "is_closed", _ => pure (some (Ref.ofBool l.closed))
  | "is_running", _ => pure (some (Ref.ofBool l.running))
  | "create_future", _ => do pure (some (← make .future (.future ⟨self, .pending, [], [], none⟩)))
  | "create_task", c :: _ => do
    if l.closed then loopClosed else pure (some (← newTask self c))
  | _, _ => pure none

/-- Makes a loop. -/
def newLoop : Eval Ref := make .eventLoop (.loop Loop.fresh)

end Eval

end EmbeddedPython
