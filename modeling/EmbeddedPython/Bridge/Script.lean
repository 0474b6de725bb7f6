import EmbeddedPython.Bridge.Iteration
import EmbeddedPython.Environment.Basic
import EmbeddedPython.Handle.Script

/-
  Scripts over event loops

  A script works in steps. In each of them the loops stand still while the
  actions are performed on a thread of the host; then the loops run until
  nothing is left to do, and every future that is pending is polled, in the
  order in which they were made. Polling may submit new work, and then the
  loops run again.
-/

namespace EmbeddedPython.LoopScript

open Activity Bridge

/-- An action of a script. -/
inductive Action where
  | new (target : String) (blueprint : Blueprint)
  | disposeHandle (x : String)
  | dropHandle (x : String)
  | referenceCount (x : String)
  | token (source : String)
  | cancel (source : String)
  | dropSource (source : String)
  /-- schedules the object of a handle on a loop, or on the default loop of the environment -/
  | run (future : String) (loop : Option String) (x : String) (source : Option String)
  | poll (future : String)
  | dropFuture (future : String)
  | openGate (gate : String) (value : Blueprint)
  | failGate (gate : String) (exception : Blueprint)
  | setFuture (x method : String) (value : Blueprint)
  | iterate (target loop x : String) (source : Option String)
  | next (future iterator : String)
  | collect (future iterator : String)
  | dispose (loop : String)
  | dropLoop (loop : String)
  | shutdown
  | dropEnvironment
  | disposeHere (loop : String)
  | isDisposed (loop : String)
  | describe (loop : String)
  | hasOneDefault

/-- What a future came to. -/
inductive Finished where
  /-- the form of the object, or why there is none -/
  | outcome (result : Except Error String)
  /-- the form of an item, or the end, with the form of the iterator -/
  | item (result : Except Error (Option (Except Error String))) (iterator : String)
  | items (result : Except Error (List (Except Error String)))
  deriving Inhabited

/-- What an action answers. -/
inductive Answer where
  | nothing
  | truth (b : Bool)
  | text (s : String)
  | number (n : Nat)
  | result (r : Except Error Unit)
  | finished (f : Finished)
  deriving Inhabited

/-- A future that has not finished. -/
inductive Waiting where
  | outcome (submitted : Except Error PromiseId)
  /-- the next item of an iterator, once it has been asked for -/
  | next (iterator : Nat) (promise : Option PromiseId)
  /-- all items of an iterator, and those that are there already once it has begun -/
  | collect (iterator : Nat) (progress : Option (List Handle × Option PromiseId))

/-- An iterator of a script. One future at a time has it to itself. -/
structure Iterated where
  x : AsyncIterator
  taken : Bool
  dropped : Bool

/-- A disposal that runs on a thread of its own. -/
inductive Disposal where
  | loop (name : String) (l : LoopId) (waited : Bool)
  /-- an ownership of a loop that is dropped; the loop is disposed of with the last one -/
  | drop (name : String) (l : LoopId) (last waited : Bool)
  | environment (e : EnvironmentId) (loop : Option LoopId) (waited dropped : Bool)

/-- What a script has names for. -/
structure Session where
  handles : HandleScript.Names
  loops : List (String × LoopId)
  /-- the loops of the interpreter whose logs are shown -/
  logs : List (String × Ref)
  sources : List (String × Nat)
  /-- in the order in which they were made -/
  futures : List (String × Waiting)
  /-- what has finished since the last report -/
  finished : List (String × Finished)
  iterators : List (String × Nat)
  iterated : Array Iterated
  disposals : List Disposal
  environment : Option EnvironmentId

/-- A computation on a script and the process that it runs in. -/
abbrev Scene (α : Type) := StateT Session (StateM Process) α

/-- The thread that the actions are performed on. -/
def hostThread : ThreadId := 0

def act {α : Type} (a : Activity α) : Scene α := fun s p =>
  let (x, p) := a p
  ((x, s), p)

/-- Performs an operation on the thread of the host. -/
def ask {α : Type} (op : Op α) : Scene (Except Error α) := act (Activity.ask hostThread op)

def handle (x : String) : Scene Handle := do pure ((← get).handles.get x)

/-- What names stand for in blueprints. -/
def naming : Scene Naming := do
  let s ← get
  let p ← act MonadState.get
  pure ⟨fun x => (s.handles.lookup x).map (·.ref),
    fun l => (s.logs.lookup l).orElse fun _ => (s.loops.lookup l).map fun i => (p.loop i).object.ref⟩

def build (b : Blueprint) : Scene (Except Error Handle) := do
  let names ← naming
  ask (Op.guarded (Op.request [] (Eval.build Machine.top (b.resolve names))))

/-- The source of a name, made on first use. -/
def source (name : String) : Scene Nat := do
  match (← get).sources.lookup name with
  | some i => pure i
  | none => do
    let i ← act newSource
    modify fun s => { s with sources := (name, i) :: s.sources }
    pure i

def tokenOf (name : Option String) : Scene Cancellation.Token := do
  match name with
  | none => pure .never
  | some n => do pure ⟨some (← source n)⟩

def loopOf (name : String) : Scene LoopId := do pure (((← get).loops.lookup name).getD 0)

/-! Futures -/

/-- The form of an object that a future came to. -/
def formOf (x : Handle) : Scene (Except Error String) := do
  let form ← ask x.repr
  act (tell hostThread x.drop)
  pure form

def withoutFuture (name : String) : Scene Unit :=
  modify fun s => { s with futures := s.futures.filter (·.1 != name) }

/-- The iterator that a future is about. -/
def iterator? : Waiting → Option Nat
  | .outcome _ => none
  | .next i _ | .collect i _ => some i

/-- Drops the iterators that neither a name nor a future is left for. -/
def sweep : Scene Unit := do
  let s ← get
  (List.range s.iterated.size).forM fun i =>
    match s.iterated[i]? with
    | some it => do
      let wanted := (s.iterators.any (·.2 == i)) || s.futures.any fun p => iterator? p.2 == some i
      if !it.dropped && !wanted then
        modify fun s => { s with
          iterated := s.iterated.setIfInBounds i { it with dropped := true } }
        act (tell hostThread it.x.iterator.drop)
    | none => pure ()

/-- Takes an iterator for a future, if no other future has it. -/
def takeIterator (i : Nat) : Scene (Option AsyncIterator) := do
  match (← get).iterated[i]? with
  | some it =>
    if it.taken then pure none
    else do
      modify fun s => { s with iterated := s.iterated.setIfInBounds i { it with taken := true } }
      pure (some it.x)
  | none => pure none

def iterator (i : Nat) : Scene AsyncIterator := do
  pure (((← get).iterated[i]?).elim default (·.x))

/-- Puts an iterator back, for other futures to take or not. -/
def putIterator (i : Nat) (x : AsyncIterator) (taken : Bool) : Scene Unit :=
  modify fun s => { s with iterated := s.iterated.modify i fun it => { it with x, taken } }

/-- Stops waiting for a future. -/
def release (w : Waiting) : Scene Unit := do
  let giveBack := fun (i : Nat) => do putIterator i (← iterator i) false
  match w with
  | .outcome (.ok i) => act (abandon hostThread i)
  | .outcome (.error _) | .next _ none => pure ()
  | .next i (some promise) => do
    act (abandon hostThread promise)
    giveBack i
  | .collect _ none => pure ()
  | .collect i (some (items, promise)) => do
    match promise with
    | some promise => act (abandon hostThread promise)
    | none => pure ()
    act (tell hostThread (Handle.dropAll items))
    giveBack i
  sweep

/-- Adds a future, in place of an older one of that name. -/
def addFuture (name : String) (w : Waiting) : Scene Unit := do
  match (← get).futures.lookup name with
  | some old => release old
  | none => pure ()
  withoutFuture name
  modify fun s => { s with futures := s.futures ++ [(name, w)] }

/-- What the end of a step of an iterator is shown as. -/
def finishItem (i : Nat) (x : AsyncIterator) (result : Except Error (Option Handle)) :
    Scene Finished := do
  putIterator i x false
  let shown ← match result with
    | .ok (some item) => do pure (.ok (some (← formOf item)))
    | .ok none => pure (.ok none)
    | .error e => pure (.error e)
  pure (.item shown x.describe)

/-- What a collection is shown as. -/
def finishItems (i : Nat) (x : AsyncIterator) (result : Except Error (List Handle)) :
    Scene Finished := do
  putIterator i x false
  match result with
  | .ok items => do pure (.items (.ok (← items.mapM formOf)))
  | .error e => pure (.items (.error e))

/-- How a poll ends. -/
inductive Polled where
  | finished (f : Finished)
  | pending (w : Waiting)

/-- Goes on collecting items as long as they are there at once. -/
def collectOn (i : Nat) :
    Nat → AsyncIterator → List Handle → Option PromiseId → Scene Polled
  | 0, x, items, promise => do
    putIterator i x true
    pure (.pending (.collect i (some (items, promise))))
  | fuel + 1, x, items, promise => do
    let (result, x) ← match promise with
      | some p => do
        match settled? (← act MonadState.get) p with
        | none => pure (AsyncIterator.Asked.waiting p, x)
        | some o =>
          let (r, x) := x.conclude o
          pure (.ready r, x)
      | none => act (x.ask hostThread)
    match result with
    | .waiting p => do
      putIterator i x true
      pure (.pending (.collect i (some (items, some p))))
    | .ready answer =>
      match AsyncIterator.gather items answer with
      | .more items => collectOn i fuel x items none
      | .finished (.ok items) => do pure (.finished (← finishItems i x (.ok items)))
      | .finished (.error e) => do
        act (tell hostThread (Handle.dropAll items))
        pure (.finished (← finishItems i x (.error e)))

/-- Looks whether a future has finished. -/
def pollWaiting (w : Waiting) : Scene Polled := do
  match w with
  | .outcome (.error e) => pure (.finished (.outcome (.error e)))
  | .outcome (.ok i) => do
    match settled? (← act MonadState.get) i with
    | none => pure (.pending w)
    | some (.ok x) => do pure (.finished (.outcome (← formOf x)))
    | some (.error e) => pure (.finished (.outcome (.error e)))
  | .next i (some promise) => do
    match settled? (← act MonadState.get) promise with
    | none => pure (.pending w)
    | some o =>
      let (result, x) := (← iterator i).conclude o
      pure (.finished (← finishItem i x result))
  | .next i none => do
    match (← takeIterator i) with
    | none => pure (.pending w)
    | some x => do
      let (asked, x) ← act (x.ask hostThread)
      match asked with
      | .waiting promise => do
        putIterator i x true
        pure (.pending (.next i (some promise)))
      | .ready result => do pure (.finished (← finishItem i x result))
  | .collect i (some (items, promise)) => do collectOn i 1000 (← iterator i) items promise
  | .collect i none => do
    match (← takeIterator i) with
    | none => pure (.pending w)
    | some x => collectOn i 1000 x [] none

/-- Polls the future of a name. -/
def pollNamed (name : String) (w : Waiting) : Scene (Option Finished) := do
  match (← pollWaiting w) with
  | .finished f => do
    withoutFuture name
    sweep
    pure (some f)
  | .pending w => do
    modify fun s =>
      { s with futures := s.futures.map fun p => if p.1 == name then (name, w) else p }
    pure none

/-- Polls every future and notes those that have finished. -/
def pollAll : Scene Unit := do
  (← get).futures.forM fun (name, w) => do
    match (← pollNamed name w) with
    | some f => modify fun s => { s with finished := s.finished ++ [(name, f)] }
    | none => pure ()

/-- Runs the loops and polls the futures until polling submits nothing new. -/
def settleAll : Nat → Scene Unit
  | 0 => pure ()
  | rounds + 1 => do
    act (runDrivers moveBound)
    let before := (← act MonadState.get).promises.size
    pollAll
    if (← act MonadState.get).promises.size != before then settleAll rounds

/-! Actions -/

/-- Opens a gate with an object, or makes it fail with one. -/
def setGate (gate : String) (state : Ref → GateState) (b : Blueprint) : Scene Unit := do
  match (← build b) with
  | .ok x => do
    let _ ← ask (Op.guarded do
      Op.ask [x.ref] (Eval.openGate gate (state x.ref))
      x.drop)
    pure ()
  | .error _ => pure ()

/-- Performs an action. -/
def perform : Action → Scene Answer
  | .new target b => do
    match (← build b) with
    | .ok x => do
      match (← ask ((← get).handles.put target x)) with
      | .ok handles => modify fun s => { s with handles := handles }
      | .error _ => pure ()
      pure .nothing
    | .error e => pure (.result (.error e))
  | .disposeHandle x => do
    match (← ask (← handle x).dispose) with
    | .ok disposed =>
      modify fun s =>
        { s with handles := s.handles.map fun p => if p.1 == x then (x, disposed) else p }
    | .error _ => pure ()
    pure .nothing
  | .dropHandle x => do
    match (← ask ((← get).handles.drop x)) with
    | .ok handles => modify fun s => { s with handles := handles }
    | .error _ => pure ()
    pure .nothing
  | .referenceCount x => do
    match (← ask (← handle x).referenceCount) with
    | .ok n => pure (.number n)
    | .error e => pure (.result (.error e))
  | .token name => do
    let _ ← source name
    pure .nothing
  | .cancel name => do
    act (cancelSource hostThread (← source name))
    pure .nothing
  | .dropSource name => do
    modify fun s => { s with sources := s.sources.filter (·.1 != name) }
    pure .nothing
  | .run future loop x token => do
    let token ← tokenOf token
    let x ← handle x
    let submitted ← match loop, (← get).environment with
      | some l, _ => do act (submit hostThread (← loopOf l) x token)
      | none, some e => act (submitDefault hostThread e x token)
      | none, none => pure (.error .notInitialized)
    addFuture future (.outcome submitted)
    pure .nothing
  | .poll future => do
    match (← get).futures.lookup future with
    | none => pure (.text "no future")
    | some w => do
      match (← pollNamed future w) with
      | some f => pure (.finished f)
      | none => pure (.text "pending")
  | .dropFuture future => do
    match (← get).futures.lookup future with
    | some w => do
      withoutFuture future
      release w
    | none => pure ()
    pure .nothing
  | .openGate gate b => do
    setGate gate .opened b
    pure .nothing
  | .failGate gate b => do
    setGate gate .failed b
    pure .nothing
  | .setFuture x method b => do
    match (← build b) with
    | .error e => pure (.result (.error e))
    | .ok value => do
      let x ← handle x
      let result ← ask (Handle.spend value fun value => do
        (← x.callMethod method [value]).drop)
      pure (match result with
        | .ok _ => .nothing
        | .error e => .result (.error e))
  | .iterate target loop x token => do
    let token ← tokenOf token
    match (← act (iterateOver hostThread (← loopOf loop) (← handle x) token)) with
    | .ok x => do
      modify fun s => { s with
        iterators := (target, s.iterated.size) :: s.iterators.filter (·.1 != target)
        iterated := s.iterated.push ⟨x, false, false⟩ }
      sweep
      pure (.text x.describe)
    | .error e => pure (.result (.error e))
  | .next future iterator => do
    match (← get).iterators.lookup iterator with
    | none => pure (.text "no iterator")
    | some i => do
      addFuture future (.next i none)
      match (← pollNamed future (.next i none)) with
      | some f => modify fun s => { s with finished := s.finished ++ [(future, f)] }
      | none => pure ()
      pure .nothing
  | .collect future iterator => do
    match (← get).iterators.lookup iterator with
    | none => pure (.text "no iterator")
    | some i => do
      modify fun s => { s with iterators := s.iterators.filter (·.1 != iterator) }
      addFuture future (.collect i none)
      pure .nothing
  | .dispose loop => do
    let l ← loopOf loop
    let waited ← act (beginDispose hostThread l)
    modify fun s => { s with disposals := s.disposals ++ [.loop loop l waited] }
    pure .nothing
  | .dropLoop loop => do
    let l ← loopOf loop
    modify fun s => { s with loops := s.loops.filter (·.1 != loop) }
    let last ← act (disown l)
    let waited ← if last then act (beginDispose hostThread l) else pure false
    modify fun s => { s with disposals := s.disposals ++ [.drop loop l last waited] }
    pure .nothing
  | .shutdown => closeEnvironment false
  | .dropEnvironment => closeEnvironment true
  | .disposeHere loop => do
    pure (.result (← act (Bridge.dispose hostThread (← loopOf loop))))
  | .isDisposed loop => do
    pure (.truth ((← act MonadState.get).loop (← loopOf loop)).disposed)
  | .describe loop => do
    pure (.text ((← act MonadState.get).loop (← loopOf loop)).describe)
  | .hasOneDefault => do
    match (← get).environment with
    | none => pure (.truth false)
    | some e => do
      let first ← act (defaultLoop hostThread e)
      let second ← act (defaultLoop hostThread e)
      match first, second with
      | .ok a, .ok b => pure (.truth (a == b))
      | _, _ => pure (.truth false)
where
  /-- Begins to close the environment. -/
  closeEnvironment (dropped : Bool) : Scene Answer := do
    match (← get).environment with
    | none => pure ()
    | some e => do
      modify fun s => { s with environment := none }
      match (← act (beginClose hostThread e)) with
      | some (loop, waited) =>
        modify fun s => { s with
          disposals := s.disposals ++ [.environment e loop waited dropped] }
      | none => pure ()
    pure .nothing

/-! Steps -/

/-- What a disposal came to: a result, or nothing when it was dropped. -/
def finishDisposal : Disposal → Scene (String × Option (Except Error Unit))
  | .loop name l waited => do
    let result ← if waited then act (endDispose hostThread l) else pure (.ok ())
    pure (name, some result)
  | .drop name l last waited => do
    if waited then act (do noteDisposal (← endDispose hostThread l))
    if last then act (releaseLoop hostThread l)
    pure (name, none)
  | .environment e loop waited dropped => do
    let result ← act (endClose hostThread e loop waited)
    if dropped then
      act (noteClosing result)
      pure ("env", none)
    else pure ("env", some result)

/-- What a step of a script came to. -/
structure Report where
  answers : List Answer
  futures : List (String × Finished)
  logs : List (String × List String)
  disposed : List (String × Option (Except Error Unit))
  logged : List LogMessage
  deriving Inhabited

/-- Takes the log of a loop of the interpreter. -/
def takeLog (r : Ref) : Scene (List String) := do
  let log := match (← act MonadState.get).host.memory.valueOf r with
    | .loop l => l.log
    | _ => []
  let _ ← ask (Op.ask [] (Eval.modifyLoop r (fun l => { l with log := [] }) (.write · [])))
  pure log

/-- Performs the actions of a step, lets the loops run, and reports. -/
def step (actions : List Action) : Scene Report := do
  let answers ← actions.mapM perform
  act (runDrivers moveBound)
  let disposals := (← get).disposals
  modify fun s => { s with disposals := [] }
  let disposed ← disposals.mapM finishDisposal
  settleAll 1000
  let s ← get
  set { s with finished := [] }
  let logs ← s.logs.mapM fun (name, r) => do pure (name, ← takeLog r)
  let logged := (← act MonadState.get).host.log
  act (modify fun p => { p with host := { p.host with log := [] } })
  pure ⟨answers, s.finished, logs.filter fun l => !l.2.isEmpty, disposed, logged⟩

/-- Opens the loops of a script by name; `default` is the default loop of the environment. -/
def openLoops (e : EnvironmentId) (limit : Option Duration) (names : List String) : Scene Unit :=
  names.forM fun name => do
    let opened ← act (if name = "default" then defaultLoop hostThread e else openLoop hostThread e)
    match opened with
    | .error _ => pure ()
    | .ok l => do
      if name = "default" then act (share l)
      else
        match limit with
        | some d => act (setLimit l d)
        | none => pure ()
      let r := ((← act MonadState.get).loop l).object.ref
      modify fun s => { s with loops := s.loops ++ [(name, l)], logs := s.logs ++ [(name, r)] }

/-- Runs a script in a process whose interpreter is initialized. -/
def runScript (names : List String) (timeout loopTimeout : Option Duration)
    (steps : List (List Action)) : List Report :=
  let body : Scene (List Report) := do
    let options := match timeout with
      | some d => Options.default.withShutdownTimeout d
      | none => Options.default
    match (← act (start hostThread options)) with
    | .error _ => pure []
    | .ok e => do
      modify fun s => { s with environment := some e }
      openLoops e loopTimeout names
      steps.mapM step
  (body ⟨[], [], [], [], [], [], [], #[], [], none⟩ Process.attached).1.1

end EmbeddedPython.LoopScript
