/-
  Messages of the embedding to its log
-/

namespace EmbeddedPython

/-- How serious a message is. -/
inductive Severity where
  | debug
  | warning
  | error
  deriving DecidableEq, Repr, Inhabited

/-- A message to the log. -/
structure LogMessage where
  severity : Severity
  text : String
  deriving DecidableEq, Repr, Inhabited

namespace LogMessage

def debug (text : String) : LogMessage := ⟨.debug, text⟩

def warning (text : String) : LogMessage := ⟨.warning, text⟩

def error (text : String) : LogMessage := ⟨.error, text⟩

/-- The line that the message makes. -/
def line (m : LogMessage) : String :=
  match m.severity with
  | .debug => "DEBUG: " ++ m.text
  | .warning => "WARN: " ++ m.text
  | .error => "ERROR: " ++ m.text

end LogMessage

end EmbeddedPython
