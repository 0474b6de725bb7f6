import EmbeddedPython.CommandLine.Reading
import EmbeddedPython.Environment.Basic
import EmbeddedPython.Options.File

/-
  The program

  The program starts an environment, does the work that its command line asks
  for and closes the environment. What is printed goes out at once if the host
  prints it, and when the interpreter is finalized if a program does. A
  coroutine that is interrupted or has no time left is asked to cancel, and
  then waited for.
-/

namespace EmbeddedPython.CommandLine

open Activity Bridge

/-- Why a run failed, with what led to it. -/
structure Complaint where
  text : String
  cause : Option String
  deriving DecidableEq, Repr, Inhabited

namespace Complaint

/-- A failure that says all by itself. -/
def plain (e : Error) : Complaint := ⟨e.message, none⟩

/-- A failure in a context. -/
def within (context : String) (e : Error) : Complaint := ⟨context, some e.message⟩

/-- The lines of a complaint; the cause is indented. -/
def lines (c : Complaint) : List String :=
  ("Error: " ++ c.text).splitOn "\n" ++ (match c.cause with
    | none => []
    | some cause => ["", "Caused by:"] ++ (cause.splitOn "\n").map ("    " ++ ·))

end Complaint

/-- What a run leaves behind. -/
structure Exit where
  code : Nat
  /-- the standard output -/
  output : String
  /-- the lines of the standard error, without the log -/
  complaints : List String
  logged : List LogMessage
  deriving DecidableEq, Repr, Inhabited

/-- What a run without work leaves behind. -/
def Detour.exit : Detour → Exit
  | .usage e => ⟨2, "", ["error: " ++ e.message], []⟩
  | .help t => ⟨0, t.text, [], []⟩
  | .version => ⟨0, programName ++ " " ++ programVersion ++ "\n", [], []⟩
  | .nothingGiven => ⟨2, "", (Topic.level none).lines, []⟩

/-- The options of a run: those of the file, with the paths of the command line behind them. -/
def Invocation.options (i : Invocation) (readFile : String → Except FileProblem String) :
    Except Error Options := do
  let options ← match i.config with
    | some path => Options.ofFile path (readFile path)
    | none => .ok Options.default
  pure (i.paths.foldl (fun o path => o.withSearchPath path) options)

/-! Work -/

/-- The thread that the work is done on. -/
def mainThread : ThreadId := 0

/-- Performs an operation on the thread of the work. -/
def ask {α : Type} (op : Op α) : ExceptT Complaint (StateM Process) α :=
  ExceptT.mk do
    match (← Activity.ask mainThread op) with
    | .ok a => pure (.ok a)
    | .error e => pure (.error (.plain e))

/-- An operation in a context, where its error is the cause of another one. -/
def askWithin {α : Type} (context : String) (op : Op α) : ExceptT Complaint (StateM Process) α :=
  ExceptT.mk do
    match (← Activity.ask mainThread op) with
    | .ok a => pure (.ok a)
    | .error e => pure (.error (.within context e))

/-- Lets a line out. -/
def say (line : String) : Activity Unit :=
  modify fun p =>
    let memory := p.host.memory
    { p with host := { p.host with
      memory := { memory with output := memory.output ++ line ++ "\n" } } }

/-- Prints the form of an object and lets go of it. -/
def printForm (x : Handle) : ExceptT Complaint (StateM Process) Unit := do
  let form ← ask (Handle.spend x Handle.repr)
  say form

/-- Calls a function of a module with texts. -/
def callNamed (module function : String) (arguments : List String) :
    ExceptT Complaint (StateM Process) Handle := do
  let source ← askWithin ("Failed to import '" ++ module ++ "'") (Host.importModule module)
  let target ← askWithin ("'" ++ module ++ "' has no attribute '" ++ function ++ "'")
    (Handle.spend source fun m => m.getAttr function)
  ask (Handle.spend target fun f => do
    let arguments ← arguments.mapM fun s => (HostValue.text s).toHandle
    Op.ensuring (f.call arguments) (Handle.dropAll arguments))

/-- Why a coroutine is not waited for any longer. -/
inductive Reason where
  | interrupted
  | timedOut
  deriving DecidableEq, Repr, Inhabited

def Reason.text : Reason → String
  | interrupted => "Interrupted"
  | timedOut => "Timed out"

/-- What comes first while a coroutine makes no progress: the end of its time or an interrupt of the
process. Without either the user has to interrupt it. -/
def Reason.first (timeout alarm : Option Duration) : Reason :=
  match timeout, alarm with
  | none, _ => interrupted
  | some _, none => timedOut
  | some d, some a => if d.nanoseconds < a.nanoseconds then timedOut else interrupted

/-- Prints what a coroutine came to. -/
def conclude (outcome : Bridge.Outcome) : ExceptT Complaint (StateM Process) Unit :=
  match outcome with
  | .ok x => printForm x
  | .error e => throw (if e.isCanceled then ⟨"Coroutine was cancelled", none⟩ else .plain e)

/-- Awaits a coroutine. The answer is a word about a cancellation, and how it ended. -/
def awaitOn (e : EnvironmentId) (title : String) (coroutine : Handle) (timeout : Option Duration) :
    Activity (List String × Except Complaint Unit) := do
  let source ← newSource
  match (← submitDefault mainThread e coroutine ⟨some source⟩) with
  | .error error => do pure ([], ← (conclude (.error error)).run)
  | .ok promise => do
    runDrivers moveBound
    match settled? (← get) promise with
    | some outcome => do pure ([], ← (conclude outcome).run)
    | none => do
      let reason := Reason.first timeout (← get).host.memory.alarm
      cancelSource mainThread source
      runDrivers moveBound
      let outcome := (settled? (← get) promise).getD (.error .eventLoopClosed)
      pure ([reason.text ++ ", cancelling " ++ title ++ "..."], ← (conclude outcome).run)

/-- Does the work in an environment. The answer is what is to be said about it on the way, and how
it ended. -/
def Job.perform (e : EnvironmentId) : Job → Activity (List String × Except Complaint Unit)
  | .eval expression => do
    let result ← (do printForm (← ask (Host.evaluateAlone expression)) :
      ExceptT Complaint (StateM Process) Unit).run
    pure ([], result)
  | .call module function arguments => do
    let result ← (do printForm (← callNamed module function arguments) :
      ExceptT Complaint (StateM Process) Unit).run
    pure ([], result)
  | .await module function arguments timeout => do
    match timeout.bind Deadline.problem? with
    | some problem => pure ([], .error ⟨"Invalid --timeout: " ++ problem, none⟩)
    | none => do
      match (← (callNamed module function arguments).run) with
      | .error c => pure ([], .error c)
      | .ok coroutine => do
        let limit := match timeout with
          | some (.after d) => some d
          | _ => none
        let ended ← awaitOn e (module ++ "." ++ function) coroutine limit
        tell mainThread coroutine.drop
        pure ended

/-- Does the work in an environment of its own. A failure to close it counts only if the work did
not fail. -/
def Job.run (j : Job) (o : Options) : Activity (List String × Except Complaint Unit) := do
  match (← Activity.start mainThread o) with
  | .error e => pure ([], .error (.within "Failed to start the Python interpreter" e))
  | .ok e => do
    let (said, result) ← j.perform e
    match result, (← Activity.close mainThread e) with
    | .error c, _ => pure (said, .error c)
    | .ok _, .error e =>
      pure (said, .error (.within "Failed to shut down the Python interpreter" e))
    | .ok _, .ok _ => pure (said, .ok ())

/-- What a verbose run tells about the interpreter. -/
def lifeMessages (p : Process) : List LogMessage :=
  .debug "Python interpreter initialized"
    :: if p.host.lock.alive then [] else [.debug "Python interpreter finalized"]

/-- Carries out a command line. -/
def run (readFile : String → Except FileProblem String) (words : List String) : Exit :=
  match read words with
  | .error d => d.exit
  | .ok i =>
    match i.options readFile with
    | .error e => ⟨1, "", (Complaint.plain e).lines, []⟩
    | .ok o =>
      let ((said, result), p) := i.job.run o Process.absent
      let logged := p.host.log ++ (if i.verbose then lifeMessages p else [])
      let output := p.host.memory.output
      match result with
      | .ok _ => ⟨0, output, said, logged⟩
      | .error c => ⟨1, output, said ++ c.lines, logged⟩

end EmbeddedPython.CommandLine
