import EmbeddedPython.Error

/-
  Options of an environment
-/

namespace EmbeddedPython

/-- How an environment is started and shut down. -/
structure Options where
  /-- directories appended to the interpreter's module search path -/
  searchPaths : List String
  /-- whether the interpreter installs signal handlers of its own -/
  installSignalHandlers : Bool
  /-- whether shutdown finalizes an interpreter that the environment initialized -/
  finalizeOnShutdown : Bool
  /-- how long the disposal of an event loop waits for its driver -/
  shutdownTimeoutMs : Nat
  deriving DecidableEq, Repr

namespace Options

def default : Options := ⟨[], false, true, 10000⟩

instance : Inhabited Options := ⟨default⟩

/-- The largest number of milliseconds that the options hold. -/
def maxMilliseconds : Nat := Nat.pow 2 64 - 1

def withSearchPath (path : String) (o : Options) : Options :=
  { o with searchPaths := o.searchPaths ++ [path] }

def withSignalHandlers (install : Bool) (o : Options) : Options :=
  { o with installSignalHandlers := install }

def withFinalizeOnShutdown (finalize : Bool) (o : Options) : Options :=
  { o with finalizeOnShutdown := finalize }

/-- Sets the timeout in whole milliseconds, as large as the options can hold. -/
def withShutdownTimeout (timeout : Duration) (o : Options) : Options :=
  { o with shutdownTimeoutMs := min timeout.milliseconds maxMilliseconds }

def shutdownTimeout (o : Options) : Duration := Duration.ofMilliseconds o.shutdownTimeoutMs

/-- The described form of a list of texts. -/
def describeTexts (items : List String) : String :=
  "[" ++ ", ".intercalate (items.map Text.quoted) ++ "]"

def describe (o : Options) : String :=
  Text.record "EnvironmentOptions" [
    ("search_paths", describeTexts o.searchPaths),
    ("install_signal_handlers", Text.ofBool o.installSignalHandlers),
    ("finalize_on_shutdown", Text.ofBool o.finalizeOnShutdown),
    ("shutdown_timeout_ms", toString o.shutdownTimeoutMs)]

end Options

/-- A change to options before an environment is started with them. -/
inductive OptionChange where
  | searchPath (path : String)
  | signalHandlers (install : Bool)
  | finalize (onShutdown : Bool)
  | timeout (limit : Duration)
  deriving DecidableEq, Repr

namespace OptionChange

def apply (o : Options) : OptionChange → Options
  | searchPath path => o.withSearchPath path
  | signalHandlers install => o.withSignalHandlers install
  | finalize onShutdown => o.withFinalizeOnShutdown onShutdown
  | timeout limit => o.withShutdownTimeout limit

/-- Applies changes in order. -/
def applyAll (changes : List OptionChange) (o : Options) : Options := changes.foldl apply o

end OptionChange

end EmbeddedPython
