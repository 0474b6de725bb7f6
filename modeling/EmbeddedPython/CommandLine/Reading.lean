import EmbeddedPython.CommandLine.Deadline
import EmbeddedPython.CommandLine.Help

/-
  Reading a command line

  Words are read from the left, first at the level of the program and, from
  the name of a command on, at the level of that command. The value of a
  setting is the rest of its word behind a sign of equality, or the next word
  if that does not look like a setting; it is stored when the next word that
  can be used has come. A setting of the program that is given at both levels
  counts as it is given at the command, and all paths before the command are
  lost when there is one at the command.
-/

namespace EmbeddedPython.CommandLine

/-- Why a command line cannot be carried out. -/
inductive UsageError where
  | missingCommand
  | missingOperands
  | unexpected (word : String)
  | unknownCommand (word : String)
  | missingValue (s : Setting)
  | repeated (s : Setting)
  | unneededValue (s : Setting) (value : String)
  | invalidValue (s : Setting) (value : String) (problem : NumberProblem)
  deriving DecidableEq, Repr, Inhabited

def UsageError.message : UsageError → String
  | missingCommand =>
    "'" ++ programName ++ "' requires a subcommand but one was not provided"
  | missingOperands => "the following required arguments were not provided:"
  | unexpected word => "unexpected argument '" ++ word ++ "' found"
  | unknownCommand word => "unrecognized subcommand '" ++ word ++ "'"
  | missingValue s => "a value is required for '" ++ s.written ++ "' but none was supplied"
  | repeated s => "the argument '" ++ s.written ++ "' cannot be used multiple times"
  | unneededValue s value =>
    "unexpected value '" ++ value ++ "' for '" ++ s.written ++ "' found; no more were expected"
  | invalidValue s value problem =>
    "invalid value '" ++ value ++ "' for '" ++ s.written ++ "': " ++ problem.message

/-- Why a command line asks for no work. -/
inductive Detour where
  | usage (e : UsageError)
  | help (t : Topic)
  | version
  /-- nothing was given at all -/
  | nothingGiven
  deriving DecidableEq, Repr, Inhabited

/-- What has been given at a level. -/
structure Given where
  config : Option String
  paths : List String
  verbose : Bool
  timeout : Option Deadline
  operands : List String
  deriving DecidableEq, Repr, Inhabited

namespace Given

def nothing : Given := ⟨none, [], false, none, []⟩

/-- Stores the value of a setting. A path of no characters counts as no value. -/
def store (g : Given) (s : Setting) : Option String → Except Detour Given
  | none => .error (.usage (.missingValue s))
  | some value =>
    match s with
    | .config =>
      if g.config.isSome then .error (.usage (.repeated s))
      else if value.isEmpty then .error (.usage (.missingValue s))
      else .ok { g with config := some value }
    | .path =>
      if value.isEmpty then .error (.usage (.missingValue s))
      else .ok { g with paths := g.paths ++ [value] }
    | .timeout =>
      if g.timeout.isSome then .error (.usage (.repeated s))
      else
        match Deadline.read value with
        | .ok d => .ok { g with timeout := some d }
        | .error p => .error (.usage (.invalidValue s value p))
    | _ => .ok g

/-- Stores a setting that has no value. -/
def switch (l : Level) (g : Given) (s : Setting) : Except Detour Given :=
  match s with
  | .verbose =>
    if g.verbose then .error (.usage (.repeated s)) else .ok { g with verbose := true }
  | .help => .error (.help (.level l))
  | .version => .error .version
  | _ => .ok g

end Given

/-- How far the reading of a level is. -/
structure Reader where
  given : Given
  /-- a setting that waits for its value, or for being stored with it -/
  pending : Option (Setting × Option String)
  /-- whether all words that follow are operands -/
  trailing : Bool
  deriving DecidableEq, Repr, Inhabited

namespace Reader

def start : Reader := ⟨Given.nothing, none, false⟩

/-- Whether the next word is the value of a setting. -/
def isAwaiting (r : Reader) : Bool := !r.trailing && r.pending.any fun p => p.2.isNone

/-- Stores the setting that waits. -/
def resolve (r : Reader) : Except Detour Reader :=
  match r.pending with
  | none => .ok r
  | some (s, value) => (r.given.store s value).map fun g => { r with given := g, pending := none }

def switch (l : Level) (r : Reader) (s : Setting) : Except Detour Reader := do
  let r ← r.resolve
  let g ← r.given.switch l s
  pure { r with given := g }

/-- The front of a word up to the first sign of equality, and what follows the sign. -/
def splitValue (word : List Char) : String × Option String :=
  let name := word.takeWhile (· != '=')
  match word.drop name.length with
  | [] => (String.ofList name, none)
  | _ :: value => (String.ofList name, some (String.ofList value))

/-- Reads a word of a long form, from behind its two hyphens. -/
def long (l : Level) (r : Reader) (word : List Char) : Except Detour Reader :=
  let (name, value) := splitValue word
  match l.settings.find? fun s => s.long == name with
  | none => .error (.usage (.unexpected ("--" ++ name)))
  | some s =>
    match s.value?.isSome, value with
    | true, some v => do
      let r ← r.resolve
      let g ← r.given.store s (some v)
      pure { r with given := g }
    | true, none => do
      let r ← r.resolve
      pure { r with pending := some (s, none) }
    | false, some v => .error (.usage (.unneededValue s v))
    | false, none => r.switch l s

/-- Reads short forms, from behind their hyphen. -/
def shorts (l : Level) (r : Reader) : List Char → Except Detour Reader
  | [] => .ok r
  | c :: rest =>
    match l.settings.find? fun s => s.short? == some c with
    | some s => do
      let r ← r.switch l s
      r.shorts l rest
    | none => .error (.usage (.unexpected ("-" ++ c.toString)))

/-- Whether a command takes one more operand. -/
def takesMore (v : Verb) (count : Nat) : Bool :=
  count < v.operands.length || v.operands.any Operand.repeated

/-- Reads an operand. -/
def operand (l : Level) (r : Reader) (word : String) : Except Detour Reader :=
  match l with
  | none =>
    .error (.usage (if r.trailing && isCommand word then .unexpected word else .unknownCommand word))
  | some v =>
    if takesMore v r.given.operands.length then do
      let r ← r.resolve
      pure { r with given := { r.given with operands := r.given.operands ++ [word] } }
    else .error (.usage (.unexpected word))

/-- Reads a word that is no name of a command. -/
def word (l : Level) (r : Reader) (word : String) : Except Detour Reader :=
  if r.trailing then r.operand l word
  else
    match word.toList with
    | ['-', '-'] => .ok { r with trailing := true }
    | '-' :: '-' :: name => r.long l name
    | '-' :: c :: rest => r.shorts l (c :: rest)
    | _ =>
      match r.pending, r.isAwaiting with
      | some (s, _), true => .ok { r with pending := some (s, some word) }
      | _, _ => r.operand l word

end Reader

/-- What the command that shows help is asked for. -/
def helpOn : List String → Detour
  | [] => .help (.level none)
  | name :: rest =>
    match Topic.ofName? name, rest with
    | none, _ => .usage (.unknownCommand name)
    | some topic, [] => .help topic
    | some _, next :: _ => .usage (.unknownCommand next)

/-- Reads the level of the program, up to a command; the words after it are left. -/
def readProgram (r : Reader) : List String → Except Detour (Reader × Option (Verb × List String))
  | [] => .ok (r, none)
  | word :: rest =>
    if !r.trailing && !r.isAwaiting && word == helpName then .error (helpOn rest)
    else
      match (if r.trailing || r.isAwaiting then none else Verb.ofName? word) with
      | some v => .ok (r, some (v, rest))
      | none =>
        match r.word none word with
        | .ok r => readProgram r rest
        | .error d => .error d

/-- Reads the level of a command. -/
def readCommand (v : Verb) (words : List String) : Except Detour Given := do
  let r ← words.foldlM (fun (r : Reader) w => r.word (some v) w) Reader.start
  pure (← r.resolve).given

/-- The work that a command line asks for. -/
inductive Job where
  | eval (expression : String)
  | call (module function : String) (arguments : List String)
  | await (module function : String) (arguments : List String) (timeout : Option Deadline)
  deriving DecidableEq, Repr, Inhabited

/-- The work that a command with its operands is. -/
def jobOf (v : Verb) (g : Given) : Except Detour Job :=
  match v, g.operands with
  | .eval, expression :: _ => .ok (.eval expression)
  | .call, module :: function :: arguments => .ok (.call module function arguments)
  | .await, module :: function :: arguments => .ok (.await module function arguments g.timeout)
  | _, _ => .error (.usage .missingOperands)

/-- What a command line says. -/
structure Invocation where
  config : Option String
  paths : List String
  verbose : Bool
  job : Job
  deriving DecidableEq, Repr, Inhabited

/-- The settings of the program as they are given at both levels. -/
def combine (program command : Given) (job : Job) : Invocation where
  config := command.config.orElse fun _ => program.config
  paths := if command.paths.isEmpty then program.paths else command.paths
  verbose := command.verbose || program.verbose
  job := job

/-- Reads a command line. The command is read to its end before what waits in front of it is
stored. -/
def read (words : List String) : Except Detour Invocation := do
  let (r, command) ← readProgram Reader.start words
  match command with
  | none => do
    let r ← r.resolve
    .error (if r.given = Given.nothing then .nothingGiven else .usage .missingCommand)
  | some (v, rest) => do
    let command ← readCommand v rest
    let job ← jobOf v command
    let program := (← r.resolve).given
    pure (combine program command job)

end EmbeddedPython.CommandLine
