import EmbeddedPython.Asyncio.Future
import EmbeddedPython.Interpreter.Building

/-
  Coroutines

  A coroutine is resumed with a value or an exception and runs until it hands
  something to its task, returns or raises. What happens inside is a walk over
  its frames: steps of a body push frames, and the end of a body travels
  outward until a frame takes it.
-/

namespace EmbeddedPython

/-! How many moves there can be -/

mutual

/-- A bound on the moves for a step of a body, with those for what the step pushes. -/
def Step.moves : Step → Nat
  | .guarded body other _ | .finally body other => Step.movesAll body + Step.movesAll other + 6
  | .repeat count body => count * (Step.movesAll body + 2) + 4
  | .await body => Step.movesAll body + 4
  | _ => 2

def Step.movesAll : List Step → Nat
  | [] => 1
  | s :: rest => s.moves + Step.movesAll rest

end

namespace Frame

/-- A bound on the moves until a frame has been left. -/
def moves : Frame → Nat
  | steps rest => Step.movesAll rest + 1
  | generating rest => Step.movesAll rest + 5 * rest.length + 2
  | guarded other _ | cleanup other => Step.movesAll other + 4
  | repeating left body => left * (Step.movesAll body + 2) + 2
  | _ => 2

def movesAll : List Frame → Nat
  | [] => 0
  | frame :: rest => frame.moves + movesAll rest

end Frame

/-- What a coroutine is resumed with. -/
inductive Resumption where
  | send (value : Ref)
  | throw (exception : Ref)
  deriving Inhabited

/-- What a coroutine came to. -/
inductive Progress where
  | yielded (r : Ref)
  | returned (r : Ref)
  deriving Inhabited

/-- What reaches the innermost frame. -/
inductive Arrival where
  /-- the frame goes on -/
  | goOn
  /-- the value that the frame waited for -/
  | value (r : Ref)
  /-- the end of what ran inside the frame, or an exception thrown into it -/
  | ended (c : Completion)
  deriving Inhabited

namespace Eval

/-- The error for an exception that a coroutine or generator must not let out. -/
def raisedInside (kind : String) (e : Ref) : Eval Ref := do
  newException .runtimeError [← newString (kind ++ " raised " ++ (← typeName e))]

def isCancellation (e : Ref) : Eval Bool := do pure ((← memory).isException e .cancelledError)

/-- The running loop. -/
def runningLoop : Eval Ref := do
  match (← memory).runningLoop with
  | some r => pure r
  | none => raise .runtimeError "no running event loop"

/-- Notes what a labelled wait came to. -/
def noteValue (m : Machine) (label : Option String) (value : Ref) : Eval Unit := do
  match label with
  | none => pure ()
  | some l => logText (l ++ "=" ++ (← m.repr value).toStringLossy)

def setGenerator (r : Ref) (phase : Phase) (frames : List Frame) : Eval Unit :=
  setValue r (.asyncGenerator ⟨phase, frames⟩)

/-- Splits the frames of a generator from those of whoever awaits its next item. -/
def splitAtItem : List Frame → List Frame × Option (Ref × List Frame)
  | [] => ([], none)
  | .item g :: rest => ([], some (g, rest))
  | f :: rest =>
    let (inside, outside) := splitAtItem rest
    (f :: inside, outside)

/-- A value or an exception as what reaches a frame. -/
def outcomeOf (body : Eval Ref) : Eval Arrival := do
  tryCatch (do pure (.value (← body))) fun e => pure (.ended (.raised e))

/-- The value that an iterator returns with its end. -/
def stopValue (e : Ref) : Eval Ref := do
  match (← valueOf e) with
  | .exception (v :: _) _ => pure v
  | _ => pure Ref.none

/-- The next item of a foreign iterator; its end is an arrival at the frame below. -/
def askIterator (m : Machine) (it : Ref) (how : Resumption) : Eval (Except Completion Ref) := do
  let isCoroutine := match (← valueOf it) with
    | .coroutine _ => true
    | _ => false
  let body : Eval Ref := match how with
    | .send value => do
      if isCoroutine then m.call (← getAttr m it "send") [value] []
      else if value == Ref.none || (← getAttr? m it "send").isNone then
        -- the `StopIteration` of the end is wanted here, with its value
        match (← special it "__next__") with
        | some (.member f) => callMember m f it []
        | _ =>
          match (← m.advance it) with
          | some r => pure r
          | none => throw (← newException .stopIteration [])
      else m.call (← getAttr m it "send") [value] []
    | .throw e => do
      match (← getAttr? m it "throw") with
      | some f => m.call f [e] []
      | none => throw e
  tryCatch (do pure (.ok (← body))) fun e => do
    if (← memory).isException e .stopIteration then
      match how with
      | .throw thrown => if thrown == e then pure (.error (.raised e)) else
          pure (.error (.returned (← stopValue e)))
      | _ => pure (.error (.returned (← stopValue e)))
    else pure (.error (.raised e))

/-- How a suspended walk stands: what is handed out, and the frames that stay. -/
inductive Walked where
  | handed (r : Ref) (frames : List Frame)
  | finished (c : Completion)
  deriving Inhabited

/-- Waits at a gate inside the frames. -/
def waitAt (frames : List Frame) (gate : String) (frame : Ref → Frame)
    (opened : Ref → Eval Unit) : Eval (Except Walked Arrival) := do
  let loop ← runningLoop
  let entered ← tryCatch (do pure (Except.ok (← enterGate loop gate))) fun e => pure (.error e)
  match entered with
  | .error e => pure (.ok (.ended (.raised e)))
  | .ok (.ok value) => do
    let noted ← tryCatch (do opened value; pure none) fun e => pure (some e)
    match noted with
    | none => pure (.ok .goOn)
    | some e => pure (.ok (.ended (.raised e)))
  | .ok (.error future) => pure (.error (.handed future (frame future :: frames)))

/-- Does one step of a body. -/
def performStep (m : Machine) (task : Option Ref) (frames : List Frame) (s : Step) :
    Eval (Except Walked (List Frame × Arrival)) := do
  let goOn := fun (frames : List Frame) =>
    (pure (.ok (frames, .goOn)) : Eval (Except Walked (List Frame × Arrival)))
  let attempt := fun (body : Eval Completion) => do
    let c ← tryCatch body fun e => pure (.raised e)
    pure (.ok (frames, .ended c))
  match s with
  | .log text => do
    logText text
    goOn frames
  | .giveWay 0 => goOn frames
  | .giveWay (n + 1) => pure (.error (.handed Ref.none (.pausing n :: frames)))
  | .wait gate label => do
    match (← waitAt frames gate (fun f => .waiting f label) (noteValue m label)) with
    | .ok arrival => pure (.ok (frames, arrival))
    | .error w => pure (.error w)
  | .ret value => attempt do pure (.returned (← build m value))
  | .raise exception => attempt do raiseObject m (← build m exception)
  | .guarded body handler again => goOn (.steps body :: .guarded handler again :: frames)
  | .finally body final => goOn (.steps body :: .cleanup final :: frames)
  | .repeat count body => goOn (.repeating count body :: frames)
  | .await steps => goOn (.steps steps :: .awaited true :: frames)
  | .stubborn gate => do
    match (← waitAt frames gate (fun f => .stubborn gate f) (fun _ => pure ())) with
    | .ok arrival => pure (.ok (frames, arrival))
    | .error w => pure (.error w)
  | .cancelSelf => do
    match task with
    | some t => do
      let _ ← cancelFuture m waitDepth t
      goOn frames
    | none => goOn frames
  | .stopLoop => do
    stopLoop (← runningLoop)
    goOn frames
  | .emit value => do
    let built ← tryCatch (do pure (Except.ok (← build m value))) fun e => pure (.error e)
    match built, splitAtItem frames with
    | .error e, _ => pure (.ok (frames, .ended (.raised e)))
    | .ok v, (inside, some (generator, outside)) => do
      setGenerator generator .suspended inside
      pure (.ok (outside, .ended (.returned v)))
    | .ok _, (_, none) => goOn frames
  | .finish => pure (.ok (frames, .ended (.returned Ref.none)))
  | .interrupt => do
    note (fun s => { s with alarm := some Step.interruptDelay }) (fun _ => rfl) fun _ => rfl
    goOn frames

/-- What the end of something inside a frame means for the frame and for what is around it. -/
def leaveInto (m : Machine) (frame : Frame) (rest : List Frame) (c : Completion) :
    Eval (Except Walked (List Frame × Arrival)) := do
  let outward := fun (c : Completion) =>
    (pure (.ok (rest, .ended c)) : Eval (Except Walked (List Frame × Arrival)))
  match frame, c with
  | .steps _, .normal | .generating _, .normal => pure (.ok (frame :: rest, .goOn))
  | .steps _, c => outward c
  | .generating _, .raised e => do
    let memory ← memory
    if memory.isException e .stopIteration || memory.isException e .stopAsyncIteration then
      outward (.raised (← raisedInside "async generator" e))
    else outward c
  | .generating _, c => outward c
  | .guarded handler again, .raised e => do
    if ← isCancellation e then
      pure (.ok (.steps handler :: .handling again e :: rest, .goOn))
    else outward c
  | .guarded .., c => outward c
  | .handling again e, .normal => outward (if again then .raised e else .normal)
  | .handling .., c => outward c
  | .cleanup final, c => pure (.ok (.steps final :: .cleaning c :: rest, .goOn))
  | .cleaning pending, .normal => outward pending
  | .cleaning _, c => outward c
  | .repeating 0 _, .normal => outward .normal
  | .repeating (n + 1) body, .normal =>
    pure (.ok (.steps body :: .repeating n body :: rest, .goOn))
  | .repeating .., c => outward c
  | .awaited logged, c => do
    match c with
    | .raised e =>
      if (← memory).isException e .stopIteration then
        outward (.raised (← raisedInside "coroutine" e))
      else outward c
    | c => do
      let value := match c with
        | .returned r => r
        | _ => Ref.none
      if logged then
        let shown ← tryCatch (do pure (Except.ok (← m.repr value))) fun e => pure (.error e)
        match shown with
        | .ok t => do
          logText ("got " ++ t.toStringLossy)
          outward .normal
        | .error e => outward (.raised e)
      else outward .normal
  | .pausing _, c | .waiting .., c => outward c
  | .stubborn gate _, .raised e => do
    if ← isCancellation e then
      logText "ignored"
      match (← waitAt rest gate (fun f => .stubborn gate f) (fun _ => pure ())) with
      | .ok arrival => pure (.ok (rest, arrival))
      | .error w => pure (.error w)
    else outward c
  | .stubborn .., c => outward c
  | .item generator, c => do
    setGenerator generator .finished []
    match c with
    | .raised _ => outward c
    | _ => outward (.raised (← newException .stopAsyncIteration []))
  | .wrapping _, .raised e => do
    if (← memory).isException e .stopIteration then
      outward (.raised (← raisedInside "generator" e))
    else outward c
  | .wrapping _, c => outward c
  | .iterating it, .raised e => do
    match (← askIterator m it (.throw e)) with
    | .ok r => pure (.error (.handed r (.iterating it :: rest)))
    | .error c => outward c
  | .iterating _, c => outward c
  | .sleeping .., c => outward c

/-- The frames with which the next item of a generator is awaited. -/
def openGenerator (generator : Ref) (rest : List Frame) :
    Eval (Except Walked (List Frame × Arrival)) := do
  match (← valueOf generator) with
  | .asyncGenerator g =>
    match g.phase with
    | .finished =>
      pure (.ok (rest, .ended (.raised (← newException .stopAsyncIteration []))))
    | .running => do
      let e ← newException .runtimeError
        [← newString "anext(): asynchronous generator is already running"]
      pure (.ok (rest, .ended (.raised e)))
    | _ => do
      setGenerator generator .running []
      pure (.ok (g.frames ++ .item generator :: rest, .goOn))
  | _ => pure (.ok (rest, .ended .normal))

/-- What is run through to await an object: a coroutine, or an iterator. -/
def awaitIterator (m : Machine) (r : Ref) : Eval Ref := do
  match (← valueOf r) with
  | .coroutine _ => pure r
  | _ => iterator m r

/-- Starts to await an object that is no coroutine. -/
def openAwaitable (m : Machine) (awaitable : Ref) (rest : List Frame) :
    Eval (Except Walked (List Frame × Arrival)) := do
  match (← valueOf awaitable) with
  | .asyncGeneratorStep generator => openGenerator generator rest
  | _ =>
    let opened ← tryCatch (do
        match (← special awaitable "__await__") with
        | some (.member f) => do pure (Except.ok (← awaitIterator m (← callMember m f awaitable [])))
        | _ => do
          let it ← m.call (← getAttr m awaitable "__await__") [] []
          pure (Except.ok (← awaitIterator m it)))
      fun e => pure (.error e)
    match opened with
    | .ok it => pure (.ok (.iterating it :: rest, .value Ref.none))
    | .error e => pure (.ok (rest, .ended (.raised e)))

/-- One move of the walk over the frames. -/
def moveOn (m : Machine) (task : Option Ref) (frames : List Frame) (a : Arrival) :
    Eval (Except Walked (List Frame × Arrival)) := do
  match frames, a with
  | [], .ended c => pure (.error (.finished c))
  | [], _ => pure (.error (.finished .normal))
  | .steps [] :: rest, .goOn => pure (.ok (rest, .ended .normal))
  | .steps (s :: more) :: rest, .goOn => performStep m task (.steps more :: rest) s
  | .generating [] :: rest, .goOn => pure (.ok (rest, .ended .normal))
  | .generating (s :: more) :: rest, .goOn =>
    match s with
    | .emit _ | .finish => performStep m task (.generating more :: rest) s
    | s =>
      -- anything but an item runs as a coroutine that the generator awaits
      pure (.ok (.steps [s] :: .awaited false :: .generating more :: rest, .goOn))
  | .repeating n body :: rest, .goOn => leaveInto m (.repeating n body) rest .normal
  | .wrapping awaitable :: rest, .goOn =>
    openAwaitable m awaitable (.wrapping awaitable :: rest)
  | .pausing 0 :: rest, .value _ => pure (.ok (rest, .ended .normal))
  | .pausing (n + 1) :: rest, .value _ => pure (.error (.handed Ref.none (.pausing n :: rest)))
  | .waiting future label :: rest, .value _ => do
    -- a second task that resumes the coroutine waits for the same future
    if ← isPending future then pure (.error (.handed future frames))
    else match (← outcomeOf (futureResult future)) with
    | .value v => do
      let noted ← tryCatch (do noteValue m label v; pure none) fun e => pure (some e)
      pure (.ok (rest, .ended (match noted with
        | none => .normal
        | some e => .raised e)))
    | .ended c => pure (.ok (rest, .ended c))
    | .goOn => pure (.ok (rest, .goOn))
  | .stubborn gate future :: rest, .value _ => do
    if ← isPending future then pure (.error (.handed future frames))
    else match (← outcomeOf (futureResult future)) with
    | .ended (.raised e) => leaveInto m (.stubborn gate future) rest (.raised e)
    | _ => pure (.ok (rest, .ended .normal))
  | .iterating it :: rest, .value v => do
    match (← askIterator m it (.send v)) with
    | .ok r => pure (.error (.handed r (.iterating it :: rest)))
    | .error c => pure (.ok (rest, .ended c))
  | .sleeping _ value :: rest, .value _ => pure (.ok (rest, .ended (.returned value)))
  | .sleeping delay value :: rest, .goOn => do
    -- there is no clock: any delay passes while the loop turns once
    let checked ← tryCatch
      (do pure (Except.ok (← truth m (← m.compare .le delay (.static (.smallInt 0))))))
      fun e => pure (.error e)
    match checked with
    | .ok _ => pure (.error (.handed Ref.none (.sleeping delay value :: rest)))
    | .error e => pure (.ok (rest, .ended (.raised e)))
  | f :: rest, .ended c => leaveInto m f rest c
  | f :: rest, _ => pure (.ok (f :: rest, .ended .normal))

/-- Walks over the frames until something is handed out or the outermost frame ends. -/
def walk (m : Machine) (task : Option Ref) : Nat → List Frame → Arrival → Eval Walked
  | 0, _, _ => pure (.finished .normal)
  | fuel + 1, frames, a => do
    match (← moveOn m task frames a) with
    | .error w => pure w
    | .ok (frames, a) => walk m task fuel frames a

/-- The frames that are put on the stack when an object is awaited. -/
def framesBehind (awaitable : Ref) : Eval (List Frame) := do
  match (← valueOf awaitable) with
  | .asyncGeneratorStep generator =>
    match (← valueOf generator) with
    | .asyncGenerator g => pure g.frames
    | _ => pure []
  | _ => pure []

/-- A bound on the moves of a walk: each move takes something off the frames, unless it puts the
frames of a generator on the stack. -/
def walkBound (frames : List Frame) : Eval Nat := do
  let behind ← match frames with
    | .wrapping awaitable :: _ => framesBehind awaitable
    | _ => pure []
  pure (Frame.movesAll frames + Frame.movesAll behind + 8)

def setCoroutine (r : Ref) (phase : Phase) (frames : List Frame) : Eval Unit :=
  setValue r (.coroutine ⟨phase, frames⟩)

/-- Resumes a coroutine. -/
def resume (m : Machine) (r : Ref) (how : Resumption) : Eval Progress := do
  match (← valueOf r) with
  | .coroutine c =>
    match c.phase with
    | .finished => raise .runtimeError "cannot reuse already awaited coroutine"
    | .running => valueError "coroutine already executing"
    | phase =>
      let arrival : Arrival := match how, phase with
        | .send _, .created => .goOn
        | .send v, _ => .value v
        | .throw e, _ => .ended (.raised e)
      -- an exception ends a coroutine that has not begun without running any of it
      let frames := match how, phase with
        | .throw _, .created => []
        | _, _ => c.frames
      setCoroutine r .running []
      let task := (← memory).currentTask
      match (← walk m task (← walkBound frames) frames arrival) with
      | .handed x frames => do
        setCoroutine r .suspended frames
        pure (.yielded x)
      | .finished c => do
        setCoroutine r .finished []
        match c with
        | .normal => pure (.returned Ref.none)
        | .returned v => pure (.returned v)
        | .raised e =>
          if (← memory).isException e .stopIteration then throw (← raisedInside "coroutine" e)
          else throw e
  | _ => typeError ("'" ++ (← typeName r) ++ "' object is not a coroutine")

end Eval

end EmbeddedPython
