import EmbeddedPython.Duration
import EmbeddedPython.Text.Quoted

/-
  Failures of the embedding

  What an operation of the host can fail with. An exception of the interpreter
  crosses the boundary as the name of its type and its text; all other
  failures are the host's own. `Error.message` is the wording and
  `Error.describe` the described form.
-/

namespace EmbeddedPython

/-- An exception of the interpreter, as the host keeps it. -/
structure PythonError where
  typeName : String
  message : String
  deriving DecidableEq, Repr, Inhabited

namespace PythonError

/-- The wording: the type, then the text. -/
def display (e : PythonError) : String := e.typeName ++ ": " ++ e.message

def describe (e : PythonError) : String :=
  Text.record "PythonError" [("type_name", Text.quoted e.typeName), ("message", Text.quoted e.message)]

end PythonError

/-- Why an operation of the host failed. -/
inductive Error where
  /-- an exception raised by Python code -/
  | python (error : PythonError)
  /-- the operation was cancelled before it produced a result -/
  | canceled
  /-- the handle has been disposed -/
  | disposed
  /-- the event loop was disposed before the request was made -/
  | eventLoopDisposed
  /-- the event loop stopped before it could accept or finish the request -/
  | eventLoopClosed
  /-- the calling thread does not hold the interpreter lock -/
  | lockNotHeld
  /-- no interpreter is running -/
  | notInitialized
  /-- another environment is live -/
  | alreadyRunning
  /-- the object to schedule cannot be awaited -/
  | notAwaitable (typeName : String)
  /-- the object to iterate has no asynchronous iteration -/
  | notAsyncIterable (typeName : String)
  /-- the host passed an argument that cannot be used -/
  | invalidArgument (text : String)
  /-- the object has another type than the one asked for -/
  | conversion (expected actual : String)
  /-- the driver of an event loop did not exit in time -/
  | shutdownTimeout (limit : Duration)
  /-- drivers were still running at shutdown -/
  | eventLoopsRunning (count : Nat)
  /-- the options cannot be read -/
  | config (text : String)
  /-- a thread of the embedding could not be started -/
  | threadSpawn (name message : String)
  deriving DecidableEq, Repr, Inhabited

namespace Error

/-- The wording of a failure. -/
def message : Error → String
  | python error => error.display
  | canceled => "Operation was canceled"
  | disposed => "Python object handle has already been disposed"
  | eventLoopDisposed => "Event loop has been disposed"
  | eventLoopClosed => "Event loop is closed"
  | lockNotHeld => "This operation requires the GIL to be held by the calling thread"
  | notInitialized => "Python interpreter is not initialized"
  | alreadyRunning => "A Python environment is already running in this process"
  | notAwaitable typeName => "Object of type '" ++ typeName ++ "' is not awaitable"
  | notAsyncIterable typeName => "Object of type '" ++ typeName ++ "' is not an async iterable"
  | invalidArgument text => "Invalid argument: " ++ text
  | conversion expected actual => "Conversion error: expected " ++ expected ++ ", got " ++ actual
  | shutdownTimeout limit => "Event loop driver did not exit within " ++ limit.describe
  | eventLoopsRunning count =>
    toString count ++ " event loop driver(s) still running; the interpreter was left initialized"
  | config text => "Configuration error: " ++ text
  | threadSpawn name text => "Failed to spawn thread '" ++ name ++ "': " ++ text

/-- The name of the kind of failure. -/
def kind : Error → String
  | python _ => "Python"
  | canceled => "Canceled"
  | disposed => "Disposed"
  | eventLoopDisposed => "EventLoopDisposed"
  | eventLoopClosed => "EventLoopClosed"
  | lockNotHeld => "LockNotHeld"
  | notInitialized => "NotInitialized"
  | alreadyRunning => "AlreadyRunning"
  | notAwaitable _ => "NotAwaitable"
  | notAsyncIterable _ => "NotAsyncIterable"
  | invalidArgument _ => "InvalidArgument"
  | conversion _ _ => "Conversion"
  | shutdownTimeout _ => "ShutdownTimeout"
  | eventLoopsRunning _ => "EventLoopsRunning"
  | config _ => "Config"
  | threadSpawn _ _ => "ThreadSpawn"

/-- The described form of a failure. -/
def describe (e : Error) : String :=
  match e with
  | python error => "Python(" ++ error.describe ++ ")"
  | notAwaitable text | notAsyncIterable text | invalidArgument text | config text =>
    e.kind ++ "(" ++ Text.quoted text ++ ")"
  | conversion expected actual =>
    Text.record "Conversion" [("expected", Text.quoted expected), ("actual", Text.quoted actual)]
  | shutdownTimeout limit => "ShutdownTimeout(" ++ limit.describe ++ ")"
  | eventLoopsRunning count => "EventLoopsRunning(" ++ toString count ++ ")"
  | threadSpawn name text =>
    Text.record "ThreadSpawn" [("name", Text.quoted name), ("message", Text.quoted text)]
  | _ => e.kind

/-- Whether the failure is a confirmed cancellation. -/
def isCanceled : Error → Bool
  | canceled => true
  | _ => false

/-- The exception of the interpreter behind the failure, if there is one. -/
def python? : Error → Option PythonError
  | python error => some error
  | _ => none

end Error

end EmbeddedPython
