import EmbeddedPython.Text.Basic

/-
  The shape of a command line

  The program has settings of its own and three commands. A setting of the
  program can be given before the command or at it; a command has operands,
  and `await` a setting that no other command has. Reading a command line and
  showing help both go by these tables.
-/

namespace EmbeddedPython.CommandLine

def programName : String := "pyhost"

def programVersion : String := "0.2.0"

/-- What can be set. -/
inductive Setting where
  | config
  | path
  | verbose
  | timeout
  | help
  | version
  deriving DecidableEq, Repr, Inhabited

namespace Setting

def long : Setting → String
  | config => "config"
  | path => "path"
  | verbose => "verbose"
  | timeout => "timeout"
  | help => "help"
  | version => "version"

def short? : Setting → Option Char
  | verbose => some 'v'
  | help => some 'h'
  | version => some 'V'
  | _ => none

/-- What the value of a setting is called, if it has one. -/
def value? : Setting → Option String
  | config => some "CONFIG"
  | path => some "PATHS"
  | timeout => some "TIMEOUT"
  | _ => none

def about : Setting → String
  | config => "Environment options file (TOML)"
  | path => "Directory to append to sys.path (repeatable)"
  | verbose => "Log runtime events"
  | timeout => "Cancel the coroutine after this many seconds"
  | help => "Print help"
  | version => "Print version"

/-- The written form of a setting with its value. -/
def written (s : Setting) : String :=
  "--" ++ s.long ++ (match s.value? with
    | some v => " <" ++ v ++ ">"
    | none => "")

end Setting

/-- A command of the program. -/
inductive Verb where
  | eval
  | call
  | await
  deriving DecidableEq, Repr, Inhabited

/-- What a command is applied to. -/
structure Operand where
  name : String
  about : String
  /-- whether there may be any number of it, and none -/
  repeated : Bool
  deriving DecidableEq, Repr, Inhabited

/-- The written form of an operand. -/
def Operand.written (o : Operand) : String :=
  if o.repeated then "[" ++ o.name ++ "]..." else "<" ++ o.name ++ ">"

namespace Verb

def name : Verb → String
  | eval => "eval"
  | call => "call"
  | await => "await"

def all : List Verb := [eval, call, await]

def ofName? (s : String) : Option Verb := all.find? fun v => v.name == s

def about : Verb → String
  | eval => "Evaluate an expression and print its repr"
  | call => "Call a function with string arguments and print the result's repr"
  | await => "Call an async function and await the coroutine it returns"

/-- The operands of a command, in order. Only the last may be repeated. -/
def operands : Verb → List Operand
  | eval => [⟨"EXPRESSION", "Python expression", false⟩]
  | call => [⟨"MODULE", "Module to import", false⟩,
      ⟨"FUNCTION", "Function name within the module", false⟩,
      ⟨"ARGS", "Positional arguments, passed as str", true⟩]
  | await => [⟨"MODULE", "Module to import", false⟩,
      ⟨"FUNCTION", "Async function name within the module", false⟩,
      ⟨"ARGS", "Positional arguments, passed as str", true⟩]

end Verb

/-- The command that shows help. -/
def helpName : String := "help"

def isCommand (s : String) : Bool := s == helpName || (Verb.ofName? s).isSome

/-- A level of the command line: before the command, or at it. -/
abbrev Level := Option Verb

/-- The settings that can be given at a level, in the order in which help shows them. -/
def Level.settings : Level → List Setting
  | none => [.config, .path, .verbose, .help, .version]
  | some .await => [.config, .timeout, .path, .verbose, .help]
  | some _ => [.config, .path, .verbose, .help]

end EmbeddedPython.CommandLine
