import EmbeddedPython.Environment.Basic
import EmbeddedPython.Handle.Script

/-
  Scripts over environments

  A script begins in a process without an interpreter. It starts and closes
  environments, keeps guards, handles and loops beyond them, and sees after
  each action whether the interpreter is initialized and what was logged.
-/

namespace EmbeddedPython.LifeScript

open Activity Bridge

/-- The environment that an action is about. -/
inductive Place where
  /-- the one that the whole process shares, started on first use -/
  | shared
  | named (name : String)
  deriving DecidableEq, Repr, Inhabited

/-- An action of a script. An action with a `target` keeps its result under that name. -/
inductive Action where
  | start (target : String) (options : Options)
  | startShared
  | hasOneShared
  | owns (e : Place)
  | options (e : Place)
  | describe (e : Place)
  | shutdown (name : String)
  | dropEnvironment (name : String)
  | acquire (guard : String)
  | tryAcquire (guard : String)
  | release (guard : String)
  | depth
  | require
  /-- whether the lock is owned while threads are allowed -/
  | allowThreads
  | checkPending
  | convert (target : String) (v : HostValue)
  | none (target : String)
  | evaluate (target expression : String)
  | repr (x : String)
  | isNone (x : String)
  | isTruthy (x : String)
  | isDisposed (x : String)
  | clone (target x : String)
  | dispose (x : String)
  | drop (x : String)
  | importModule (name : String)
  /-- the last places where modules are looked for -/
  | searchPathTail (n : Nat)
  | newLoop (target : String) (e : Place)
  | defaultLoop (target : String) (e : Place)
  | disposeLoop (loop : String)
  | isLoopDisposed (loop : String)
  | dropLoop (loop : String)
  /-- awaits what a sample function returns -/
  | run (loop function : String) (arguments : List String)
  | runDefault (e : Place) (function : String)
  /-- starts a task that never ends, and waits for it no longer or not at all -/
  | startStuck (loop : String) (waiting : Bool)

/-- What an action answers. -/
inductive Answer where
  | nothing
  | truth (b : Bool)
  | number (n : Nat)
  | text (s : String)
  | options (o : Options)
  | outcome (r : Except Failure Unit)
  | judged (r : Except Failure Bool)
  | form (r : Except Failure String)
  deriving Inhabited

/-- What a script has names for. -/
structure Session where
  environments : List (String × EnvironmentId)
  guards : List (String × Guard)
  handles : HandleScript.Names
  loops : List (String × LoopId)

/-- A computation on a script and the process that it runs in. -/
abbrev Life (α : Type) := StateT Session (StateM Process) α

/-- The thread that the actions are performed on. -/
def hostThread : ThreadId := 0

def act {α : Type} (a : Activity α) : Life α := fun s p =>
  let (x, p) := a p
  ((x, s), p)

def process : Life Process := act MonadState.get

/-- Performs an operation on the thread of the host. Panics are kept apart from errors. -/
def perform {α : Type} (op : Op α) : Life (Except Failure α) :=
  act fun p =>
    let (result, h) := op.perform hostThread p.host
    (result, { p with host := h })

/-- An answer that is given only when there was an error. -/
def quiet {α : Type} : Except Failure α → Answer
  | .ok _ => .nothing
  | .error f => .outcome (.error f)

/-- An error as the failure of an operation. -/
def failing {α : Type} : Except Error α → Except Failure α
  | .ok a => .ok a
  | .error e => .error (.error e)

/-! Names -/

/-- The environment of a place. -/
def environmentOf : Place → Life (Option EnvironmentId)
  | .named name => do pure ((← get).environments.lookup name)
  | .shared => do
    match (← act (sharedEnvironment hostThread)) with
    | .ok e => pure (some e)
    | .error _ => pure Option.none

/-- Answers from the state of an environment. -/
def tellOf (e : Place) (answer : Environment → Answer) : Life Answer := do
  match (← environmentOf e) with
  | some e => do pure (answer ((← process).environment e))
  | Option.none => pure .nothing

/-- Takes an environment away from its name. -/
def takeEnvironment (name : String) : Life (Option EnvironmentId) := do
  let e := (← get).environments.lookup name
  modify fun s => { s with environments := s.environments.filter (·.1 != name) }
  pure e

def handle (x : String) : Life Handle := do pure ((← get).handles.get x)

/-- Keeps the handle that an operation makes. -/
def keep (target : String) (made : Op Handle) : Life (Except Failure Handle) := do
  let names := (← get).handles
  match (← perform do
      let x ← made
      pure (x, ← names.put target x)) with
  | .ok (x, names) => do
    modify fun s => { s with handles := names }
    pure (.ok x)
  | .error f => pure (.error f)

/-- Releases a guard, with a warning when nothing was held. -/
def releaseGuard (g : Guard) : Life Guard := do
  let p ← process
  let (g, warned, lock) := g.release hostThread p.host.lock
  act (modify fun p => { p with host := { p.host with lock := lock } })
  if warned then act (note (.warning Lock.unbalancedWarning))
  pure g

/-- Takes the lock and keeps the guard. -/
def takeLock (guard : String) (onError : Error → Failure) : Life Answer := do
  match (← process).host.lock.tryAcquire hostThread with
  | .error e => pure (.outcome (.error (onError e)))
  | .ok lock => do
    act (modify fun p => { p with host := { p.host with lock := lock } })
    let older := (← get).guards.lookup guard
    modify fun s => { s with guards := (guard, ⟨false⟩) :: s.guards.filter (·.1 != guard) }
    match older with
    | some g => do
      let _ ← releaseGuard g
      pure .nothing
    | Option.none => pure .nothing

/-- Keeps a loop and drops the older one of that name. -/
def keepLoop (target : String) (opened : Except Error LoopId) : Life Answer := do
  match opened with
  | .error e => pure (.outcome (.error (.error e)))
  | .ok l => do
    let older := (← get).loops.lookup target
    modify fun s => { s with loops := (target, l) :: s.loops.filter (·.1 != target) }
    match older with
    | some l => act (Bridge.dropLoop hostThread l)
    | Option.none => pure ()
    pure .nothing

/-! Coroutines -/

/-- The module of the sample functions. -/
def sampleModule : String := "orc"

/-- Calls a sample function with texts. -/
def callSample (function : String) (arguments : List String) : Op Handle := do
  Handle.spend (← Host.importModule sampleModule) fun m => do
    Handle.spend (← m.getAttr function) fun f => do
      let arguments ← arguments.mapM fun s => (HostValue.text s).toHandle
      Op.ensuring (f.call arguments) (Handle.dropAll arguments)

/-- Submits what a sample function returns. -/
def submitSample (function : String) (arguments : List String)
    (submit : Handle → Activity (Except Error PromiseId)) : Life (Except Failure PromiseId) := do
  match (← perform (callSample function arguments)) with
  | .error f => pure (.error f)
  | .ok coroutine => do
    let submitted ← act (submit coroutine)
    act (tell hostThread coroutine.drop)
    pure (failing submitted)

/-- Waits for a promise and shows what it came to. -/
def await (submitted : Except Failure PromiseId) : Life Answer := do
  match submitted with
  | .error f => pure (.form (.error f))
  | .ok i => do
    act (runDrivers moveBound)
    match settled? (← process) i with
    | Option.none => pure .nothing
    | some (.error e) => pure (.form (.error (.error e)))
    | some (.ok x) => do
      let form ← perform x.repr
      act (tell hostThread x.drop)
      pure (.form form)

/-! Actions -/

/-- Performs an action. -/
def answer : Action → Life Answer
  | .start target options => do
    match (← act (Activity.start hostThread options)) with
    | .error e => pure (.outcome (.error (.error e)))
    | .ok e => do
      modify fun s =>
        { s with environments := (target, e) :: s.environments.filter (·.1 != target) }
      pure .nothing
  | .startShared => do
    match (← act (sharedEnvironment hostThread)) with
    | .ok _ => pure (.outcome (.ok ()))
    | .error e => pure (.outcome (.error (.error e)))
  | .hasOneShared => do
    match (← environmentOf .shared), (← environmentOf .shared) with
    | some a, some b => pure (.truth (a == b))
    | _, _ => pure (.truth false)
  | .owns e => tellOf e fun x => .truth x.owns
  | .options e => tellOf e fun x => .options x.options
  | .describe e => tellOf e fun x => .text x.describe
  | .shutdown name => do
    match (← takeEnvironment name) with
    | some e => do pure (.outcome (failing (← act (Activity.close hostThread e))))
    | Option.none => pure .nothing
  | .dropEnvironment name => do
    match (← takeEnvironment name) with
    | some e => act (Activity.dropEnvironment hostThread e)
    | Option.none => pure ()
    pure .nothing
  | .acquire guard => takeLock guard fun e => .panic (Lock.acquirePanic e)
  | .tryAcquire guard => takeLock guard .error
  | .release guard => do
    match (← get).guards.lookup guard with
    | some g => do
      let g ← releaseGuard g
      modify fun s => { s with guards := (guard, g) :: s.guards.filter (·.1 != guard) }
    | Option.none => pure ()
    pure .nothing
  | .depth => do pure (.number ((← process).host.lock.depth hostThread))
  | .require => do pure (.outcome (failing ((← process).host.lock.require hostThread)))
  | .allowThreads => do
    match (← perform (Op.allowingThreads do
        pure ((← Op.host).lock.isAcquired hostThread))) with
    | .ok b => pure (.truth b)
    | .error f => pure (.outcome (.error f))
  | .checkPending => do pure (.outcome (← perform (Op.guarded Op.checkPending)))
  | .convert target v => do pure (quiet (← keep target v.toHandle))
  | .none target => do pure (quiet (← keep target (pure Handle.none)))
  | .evaluate target expression => do
    match (← keep target (Host.evaluateAlone expression)) with
    | .ok x => do pure (.form (← perform x.repr))
    | .error f => pure (.form (.error f))
  | .repr x => do pure (.form (← perform (← handle x).repr))
  | .isNone x => do pure (.truth (← handle x).isNone)
  | .isTruthy x => do pure (.judged (← perform (← handle x).isTruthy))
  | .isDisposed x => do pure (.truth (← handle x).disposed)
  | .clone target x => do pure (quiet (← keep target (← handle x).clone))
  | .dispose x => do
    match (← perform (← handle x).dispose) with
    | .ok disposed => do
      modify fun s =>
        { s with handles := s.handles.map fun p => if p.1 == x then (x, disposed) else p }
      pure .nothing
    | .error f => pure (.outcome (.error f))
  | .drop x => do
    match (← perform ((← get).handles.drop x)) with
    | .ok handles => do
      modify fun s => { s with handles := handles }
      pure .nothing
    | .error f => pure (.outcome (.error f))
  | .importModule name => do
    pure (.form (← perform do Handle.spend (← Host.importModule name) Handle.typeName))
  | .searchPathTail n => do
    pure (.form (← perform do Handle.spend (← callSample "path_tail" [toString n]) Handle.repr))
  | .newLoop target e => do
    match (← environmentOf e) with
    | some e => do keepLoop target (← act (openLoop hostThread e))
    | Option.none => pure .nothing
  | .defaultLoop target e => do
    match (← environmentOf e) with
    | Option.none => pure .nothing
    | some e => do
      let opened ← act (Bridge.defaultLoop hostThread e)
      match opened with
      | .ok l => act (share l)
      | .error _ => pure ()
      keepLoop target opened
  | .disposeLoop loop => do
    match (← get).loops.lookup loop with
    | some l => do pure (.outcome (failing (← act (Bridge.dispose hostThread l))))
    | Option.none => pure .nothing
  | .isLoopDisposed loop => do
    match (← get).loops.lookup loop with
    | some l => do pure (.truth ((← process).loop l).disposed)
    | Option.none => pure .nothing
  | .dropLoop loop => do
    match (← get).loops.lookup loop with
    | some l => do
      modify fun s => { s with loops := s.loops.filter (·.1 != loop) }
      act (Bridge.dropLoop hostThread l)
    | Option.none => pure ()
    pure .nothing
  | .run loop function arguments => do
    match (← get).loops.lookup loop with
    | some l => do
      await (← submitSample function arguments fun x => submit hostThread l x .never)
    | Option.none => pure .nothing
  | .runDefault e function => do
    match (← environmentOf e) with
    | some e => do
      await (← submitSample function [] fun x => submitDefault hostThread e x .never)
    | Option.none => pure .nothing
  | .startStuck loop waiting => do
    match (← get).loops.lookup loop with
    | some l => do
      match (← submitSample "stuck" [] fun x => submit hostThread l x .never) with
      | .error f => pure (.outcome (.error f))
      | .ok i => do
        if !waiting then act (abandon hostThread i)
        pure .nothing
    | Option.none => pure .nothing

/-- An answer, whether the interpreter is initialized after the action, and what was logged. -/
structure Report where
  answer : Answer
  alive : Bool
  logged : List LogMessage
  deriving Inhabited

/-- Performs an action, lets the loops run, and reports. -/
def step (a : Action) : Life Report := do
  let answer ← answer a
  act (runDrivers moveBound)
  let p ← process
  act (set { p with host := { p.host with log := [] } })
  pure ⟨answer, p.host.lock.alive, p.host.log⟩

/-- Runs a script in a process of its own. There is no answer if that does not survive it. -/
def runScript (actions : List Action) : Option (List Report) :=
  let body : Life (List Report) := actions.mapM step
  let ((reports, _), p) := body ⟨[], [], [], []⟩ Process.absent
  if p.stranded then Option.none else some reports

end EmbeddedPython.LifeScript
