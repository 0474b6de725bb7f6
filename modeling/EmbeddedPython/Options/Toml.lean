import EmbeddedPython.Options.Basic
import EmbeddedPython.Toml.Reader

/-
  Options in TOML

  Every field is optional, no other field is allowed, and the fields are
  checked in the order in which they stand. A text that is no TOML document is
  reported as such before any field is looked at.
-/

namespace EmbeddedPython.Options

/-- Why a document does not describe options. -/
inductive Problem where
  | malformed
  | unknownField (name : String)
  | wrongType (found expected : String)
  | wrongValue (found expected : String)
  deriving DecidableEq, Repr

/-- The names of the fields. -/
def fieldNames : List String :=
  ["search_paths", "install_signal_handlers", "finalize_on_shutdown", "shutdown_timeout_ms"]

def ticked (s : String) : String := "`" ++ s ++ "`"

/-- The wording of a problem. A malformed text is only marked: where and why is told elsewhere. -/
def Problem.message : Problem → String
  | malformed => "<syntax>"
  | unknownField name =>
    "unknown field " ++ ticked name ++ ", expected one of " ++ ", ".intercalate (fieldNames.map ticked)
  | wrongType found expected => "invalid type: " ++ found ++ ", expected " ++ expected
  | wrongValue found expected => "invalid value: " ++ found ++ ", expected " ++ expected

/-- What a value is called in a message. -/
def found : Toml.Value → String
  | .text s => "string " ++ Text.quoted s
  | .integer n => "integer " ++ ticked (toString n)
  | .float x => "floating point " ++ ticked (Binary64.plain x)
  | .boolean b => "boolean " ++ ticked (Text.ofBool b)
  | .dateTime => "map"
  | .array _ => "sequence"
  | .table _ => "map"

def readBool : Toml.Value → Except Problem Bool
  | .boolean b => .ok b
  | v => .error (.wrongType (found v) "a boolean")

def readPath : Toml.Value → Except Problem String
  | .text s => .ok s
  | v => .error (.wrongType (found v) "path string")

def readPaths : Toml.Value → Except Problem (List String)
  | .array items => items.mapM readPath
  | v => .error (.wrongType (found v) "a sequence")

def readMilliseconds : Toml.Value → Except Problem Nat
  | .integer n => if n < 0 then .error (.wrongValue (found (.integer n)) "u64") else .ok n.toNat
  | v => .error (.wrongType (found v) "u64")

/-- Takes one field over. -/
def readField (o : Options) (field : String × Toml.Value) : Except Problem Options :=
  match field.1 with
  | "search_paths" => (readPaths field.2).map fun v => { o with searchPaths := v }
  | "install_signal_handlers" => (readBool field.2).map fun v => { o with installSignalHandlers := v }
  | "finalize_on_shutdown" => (readBool field.2).map fun v => { o with finalizeOnShutdown := v }
  | "shutdown_timeout_ms" => (readMilliseconds field.2).map fun v => { o with shutdownTimeoutMs := v }
  | name => .error (.unknownField name)

/-- The options that a document describes. -/
def read (s : String) : Except Problem Options :=
  match Toml.parse? s with
  | none => .error .malformed
  | some fields => fields.foldlM readField default

/-- Options from TOML text. -/
def ofToml (s : String) : Except Error Options :=
  (read s).mapError fun p => .config p.message

end EmbeddedPython.Options
