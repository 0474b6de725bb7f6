import EmbeddedPython.Bridge.EventLoop
import EmbeddedPython.Host.Evaluation

/-
  Environments

  An environment is started once, initializes the interpreter unless somebody
  else did, and resolves what the bridge needs. Closing it disposes of its
  default loop and finalizes the interpreter that it initialized, unless one
  of its drivers is still running. At most one environment is live.
-/

namespace EmbeddedPython

open Activity Bridge

/-- The places where a new interpreter looks for modules. -/
def initialSearchPath : List String := [
  "/usr/lib/python311.zip", "/usr/lib/python3.11", "/usr/lib/python3.11/lib-dynload",
  "/usr/local/lib/python3.11/dist-packages", "/usr/lib/python3/dist-packages"]

namespace Process

/-- Initializes an interpreter. What earlier ones made is out of its reach. -/
def beginInterpreter (p : Process) : Process :=
  let old := p.host.memory
  let fresh : Memory := { Memory.fresh with
    cells := old.cells, customized := old.customized, output := old.output }
  let made : Eval Ref := do Eval.newList (← initialSearchPath.mapM Eval.newString)
  let memory := match made.run fresh with
    | (.ok path, m) => { m with searchPath := some path }
    | (.error _, m) => m
  { p with
    interpreters := p.interpreters + 1
    host := { p.host with
      lock := { p.host.lock with interpreter := some p.interpreters, holder := none }
      memory := memory
      held := []
      pending := none
      born := p.host.memory.cells.size } }

/-- Adds an environment, which initializes the interpreter unless that has been done. -/
def enroll (p : Process) (o : Options) : Process :=
  let owns := !p.host.lock.alive
  let p := if owns then p.beginInterpreter else p
  { p with active := true, environments := p.environments.push ⟨o, owns, none, none, 0, false⟩ }

/-- Finalizes the interpreter. What it kept of what programs have printed goes out. -/
def endInterpreter (p : Process) : Process :=
  let memory := p.host.memory
  { p with host := { p.host with
    memory := { memory with output := memory.output ++ memory.printed, printed := "" }
    lock := { p.host.lock with interpreter := none, holder := none }
    held := []
    pending := none } }

/-- Finalizes the interpreter on a thread of its own, with the ownership of the caller suspended. -/
def finalize (p : Process) (t : ThreadId) : Process :=
  let (suspension, lock) := p.host.lock.suspend t
  let p := endInterpreter { p with host := { p.host with lock := lock } }
  match suspension with
  | none => p
  | some levels => { p with host := { p.host with lock := p.host.lock.resume t levels } }

/-- Whether the levels of a thread were put back where no interpreter was initialized. The
interpreter that has been finalized ends such a thread, and with it the process. -/
def stranded (p : Process) : Bool := p.host.lock.calls.any fun m =>
  match m.call with
  | .restore _ => m.interpreter.isNone
  | _ => false

end Process

/-- The callback that is attached to every task. -/
def stopOnDoneSource : String := "lambda fut: fut.get_loop().stop()"

/-- Appends a place to look for modules. -/
def appendPath (list : Handle) : List String → Op Unit
  | [] => pure ()
  | path :: rest => do
    Handle.spend (← (HostValue.text path).toHandle) fun entry => do
      (← list.callMethod "append" [entry]).drop
    appendPath list rest

/-- The list of the places where modules are looked for. -/
def searchPathList : Op Handle := do Op.borrowed (← Op.memory).currentSearchPath

/-- What an environment resolves when it is started. -/
def resolveBindings (o : Options) : Op Bindings := Op.guarded do
  if !o.searchPaths.isEmpty then
    Handle.spend (← searchPathList) fun list => appendPath list o.searchPaths
  Handle.spend (← Host.importModule "asyncio") fun asyncio => do
    let newEventLoop ← asyncio.getAttr "new_event_loop"
    Op.onFailure
      (do
        let ensureFuture ← asyncio.getAttr "ensure_future"
        Op.onFailure
          (do
            let stopOnDone ← Host.evaluateAlone stopOnDoneSource
            pure ⟨newEventLoop, ensureFuture, stopOnDone⟩)
          ensureFuture.drop)
      newEventLoop.drop

namespace Environment

def describe (e : Environment) : String :=
  Text.record "Environment" [("options", e.options.describe),
    ("owns_interpreter", Text.ofBool e.owns), ("closed", Text.ofBool e.closed)]

end Environment

namespace Activity

/-- Lets go of what an environment resolved. -/
def dropBindings (t : ThreadId) (e : EnvironmentId) : Activity Unit := do
  match ((← get).environment e).bindings with
  | none => pure ()
  | some b => do
    modifyEnvironment e fun x => { x with bindings := none }
    tell t do
      b.newEventLoop.drop
      b.ensureFuture.drop
      b.stopOnDone.drop

/-- Marks an environment as closed. The answer is its default loop, if the environment has been
open. -/
def markClosed (e : EnvironmentId) : Activity (Option (Option LoopId)) := do
  let x := (← get).environment e
  if x.closed then pure none
  else
    modifyEnvironment e fun x => { x with closed := true, defaultLoop := none }
    pure (some x.defaultLoop)

/-- The first part of closing an environment: the default loop is told to stop. The answer is that
loop, and whether its driver has to be waited for, if there is anything to do at all. -/
def beginClose (t : ThreadId) (e : EnvironmentId) : Activity (Option (Option LoopId × Bool)) := do
  match (← markClosed e) with
  | none => pure none
  | some none => pure (some (none, false))
  | some (some l) => do pure (some (some l, ← beginDispose t l))

/-- What the disposal of the default loop comes to, if its driver has been waited for. -/
def endDefault (t : ThreadId) : Option LoopId → Bool → Activity (Except Error Unit)
  | some l, true => endDispose t l
  | _, _ => pure (.ok ())

/-- Lets go of the default loop. -/
def releaseDefault (t : ThreadId) : Option LoopId → Activity Unit
  | some l => do if ← disown l then releaseLoop t l
  | none => pure ()

/-- Decides whether to finalize the interpreter: only the environment that initialized it does, and
not while one of its drivers is running. -/
def decideClose (x : Environment) (disposed : Except Error Unit) :
    Activity (Except Error Unit × Bool) := do
  if !x.owns || !x.options.finalizeOnShutdown then pure (disposed, false)
  else if x.leases = 0 then pure (disposed, true)
  else
    note (.error "event loop drivers still running; not finalizing the interpreter")
    match disposed with
    | .ok _ => pure (.error (.eventLoopsRunning x.leases), false)
    | .error e => pure (.error e, false)

/-- What follows the wait for the default loop. The environment lets go of everything and decides
whether to finalize the interpreter. The answer is what the closing comes to, and the decision. -/
def settleClose (t : ThreadId) (e : EnvironmentId) (loop : Option LoopId) (waited : Bool) :
    Activity (Except Error Unit × Bool) := do
  let disposed ← endDefault t loop waited
  releaseDefault t loop
  dropBindings t e
  let x := (← get).environment e
  modifyEnvironment e fun x => { x with owns := false }
  decideClose x disposed

/-- Finalizes the interpreter, if that has been decided, and makes room for another environment. -/
def finishClose (t : ThreadId) (finalizes : Bool) : Activity Unit := do
  if finalizes then modify fun p => p.finalize t
  modify fun p => { p with active := false }

/-- The last part of closing an environment, after the default loop has been waited for. -/
def endClose (t : ThreadId) (e : EnvironmentId) (loop : Option LoopId) (waited : Bool) :
    Activity (Except Error Unit) := do
  let (result, finalizes) ← settleClose t e loop waited
  finishClose t finalizes
  pure result

/-- Closes an environment; all drivers make their moves while it waits. -/
def close (t : ThreadId) (e : EnvironmentId) : Activity (Except Error Unit) := do
  match (← beginClose t e) with
  | none => pure (.ok ())
  | some (loop, waited) => do
    if waited then runDrivers moveBound
    endClose t e loop waited

/-- Reports that a closing nobody looks at failed. -/
def noteClosing (result : Except Error Unit) : Activity Unit := do
  match result with
  | .ok _ => pure ()
  | .error _ => note (.error "failed to shut down Python environment")

/-- Drops an environment, which closes it. -/
def dropEnvironment (t : ThreadId) (e : EnvironmentId) : Activity Unit := do
  noteClosing (← close t e)

/-- Makes an environment that has resolved nothing yet, unless there is a live one. -/
def beginStart (o : Options) : Activity (Except Error EnvironmentId) := do
  let p ← get
  if p.active then pure (.error .alreadyRunning)
  else
    set (p.enroll o)
    pure (.ok p.environments.size)

/-- Resolves what an environment needs. -/
def resolve (t : ThreadId) (e : EnvironmentId) : Activity (Except Error Unit) := do
  match (← ask t (resolveBindings ((← get).environment e).options)) with
  | .ok b => do
    modifyEnvironment e fun x => { x with bindings := some b }
    pure (.ok ())
  | .error error => pure (.error error)

/-- Starts an environment. A start that fails is undone by dropping what there is of it. -/
def start (t : ThreadId) (o : Options) : Activity (Except Error EnvironmentId) := do
  match (← beginStart o) with
  | .error error => pure (.error error)
  | .ok e => do
    match (← resolve t e) with
    | .ok _ => pure (.ok e)
    | .error error => do
      dropEnvironment t e
      pure (.error error)

/-- The environment that the whole process shares, started with default options on first use. -/
def sharedEnvironment (t : ThreadId) : Activity (Except Error EnvironmentId) := do
  match (← get).shared with
  | some e => pure (.ok e)
  | none => do
    match (← start t Options.default) with
    | .ok e => do
      modify fun p => { p with shared := some e }
      pure (.ok e)
    | .error error => pure (.error error)

/-- Submits an awaitable to the default loop of an environment. -/
def submitDefault (t : ThreadId) (e : EnvironmentId) (awaitable : Handle)
    (token : Cancellation.Token) : Activity (Except Error PromiseId) := do
  match (← defaultLoop t e) with
  | .ok l => submit t l awaitable token
  | .error error => pure (.error error)

end Activity

end EmbeddedPython
