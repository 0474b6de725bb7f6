/-
  The built-in exception classes

  The tree of exception classes that the interpreter brings along, with the
  two that its event loops add. Every class has one parent, but for
  `ExceptionGroup`, whose line of ancestors also passes through `Exception`.
-/

namespace EmbeddedPython

/-- An exception class of the interpreter. -/
inductive ExceptionClass where
  | baseException | baseExceptionGroup | exceptionGroup | exception | arithmeticError
  | floatingPointError | overflowError | zeroDivisionError | assertionError | attributeError
  | bufferError | eofError | importError | moduleNotFoundError | lookupError | indexError
  | keyError | memoryError | nameError | unboundLocalError | osError | blockingIOError
  | childProcessError | connectionError | brokenPipeError | connectionAbortedError
  | connectionRefusedError | connectionResetError | fileExistsError | fileNotFoundError
  | interruptedError | isADirectoryError | notADirectoryError | permissionError
  | processLookupError | timeoutError | referenceError | runtimeError | notImplementedError
  | recursionError | stopAsyncIteration | stopIteration | syntaxError | indentationError
  | tabError | systemError | typeError | valueError | unicodeError | unicodeDecodeError
  | unicodeEncodeError | unicodeTranslateError | warning | bytesWarning | deprecationWarning
  | encodingWarning | futureWarning | importWarning | pendingDeprecationWarning | resourceWarning
  | runtimeWarning | syntaxWarning | unicodeWarning | userWarning | generatorExit
  | keyboardInterrupt | systemExit | cancelledError | invalidStateError
  deriving DecidableEq, Repr, Inhabited

namespace ExceptionClass

def all : List ExceptionClass := [
  baseException, baseExceptionGroup, exceptionGroup, exception, arithmeticError,
  floatingPointError, overflowError, zeroDivisionError, assertionError, attributeError,
  bufferError, eofError, importError, moduleNotFoundError, lookupError, indexError, keyError,
  memoryError, nameError, unboundLocalError, osError, blockingIOError, childProcessError,
  connectionError, brokenPipeError, connectionAbortedError, connectionRefusedError,
  connectionResetError, fileExistsError, fileNotFoundError, interruptedError, isADirectoryError,
  notADirectoryError, permissionError, processLookupError, timeoutError, referenceError,
  runtimeError, notImplementedError, recursionError, stopAsyncIteration, stopIteration,
  syntaxError, indentationError, tabError, systemError, typeError, valueError, unicodeError,
  unicodeDecodeError, unicodeEncodeError, unicodeTranslateError, warning, bytesWarning,
  deprecationWarning, encodingWarning, futureWarning, importWarning, pendingDeprecationWarning,
  resourceWarning, runtimeWarning, syntaxWarning, unicodeWarning, userWarning, generatorExit,
  keyboardInterrupt, systemExit, cancelledError, invalidStateError]

def name : ExceptionClass → String
  | baseException => "BaseException"
  | baseExceptionGroup => "BaseExceptionGroup"
  | exceptionGroup => "ExceptionGroup"
  | exception => "Exception"
  | arithmeticError => "ArithmeticError"
  | floatingPointError => "FloatingPointError"
  | overflowError => "OverflowError"
  | zeroDivisionError => "ZeroDivisionError"
  | assertionError => "AssertionError"
  | attributeError => "AttributeError"
  | bufferError => "BufferError"
  | eofError => "EOFError"
  | importError => "ImportError"
  | moduleNotFoundError => "ModuleNotFoundError"
  | lookupError => "LookupError"
  | indexError => "IndexError"
  | keyError => "KeyError"
  | memoryError => "MemoryError"
  | nameError => "NameError"
  | unboundLocalError => "UnboundLocalError"
  | osError => "OSError"
  | blockingIOError => "BlockingIOError"
  | childProcessError => "ChildProcessError"
  | connectionError => "ConnectionError"
  | brokenPipeError => "BrokenPipeError"
  | connectionAbortedError => "ConnectionAbortedError"
  | connectionRefusedError => "ConnectionRefusedError"
  | connectionResetError => "ConnectionResetError"
  | fileExistsError => "FileExistsError"
  | fileNotFoundError => "FileNotFoundError"
  | interruptedError => "InterruptedError"
  | isADirectoryError => "IsADirectoryError"
  | notADirectoryError => "NotADirectoryError"
  | permissionError => "PermissionError"
  | processLookupError => "ProcessLookupError"
  | timeoutError => "TimeoutError"
  | referenceError => "ReferenceError"
  | runtimeError => "RuntimeError"
  | notImplementedError => "NotImplementedError"
  | recursionError => "RecursionError"
  | stopAsyncIteration => "StopAsyncIteration"
  | stopIteration => "StopIteration"
  | syntaxError => "SyntaxError"
  | indentationError => "IndentationError"
  | tabError => "TabError"
  | systemError => "SystemError"
  | typeError => "TypeError"
  | valueError => "ValueError"
  | unicodeError => "UnicodeError"
  | unicodeDecodeError => "UnicodeDecodeError"
  | unicodeEncodeError => "UnicodeEncodeError"
  | unicodeTranslateError => "UnicodeTranslateError"
  | warning => "Warning"
  | bytesWarning => "BytesWarning"
  | deprecationWarning => "DeprecationWarning"
  | encodingWarning => "EncodingWarning"
  | futureWarning => "FutureWarning"
  | importWarning => "ImportWarning"
  | pendingDeprecationWarning => "PendingDeprecationWarning"
  | resourceWarning => "ResourceWarning"
  | runtimeWarning => "RuntimeWarning"
  | syntaxWarning => "SyntaxWarning"
  | unicodeWarning => "UnicodeWarning"
  | userWarning => "UserWarning"
  | generatorExit => "GeneratorExit"
  | keyboardInterrupt => "KeyboardInterrupt"
  | systemExit => "SystemExit"
  | cancelledError => "CancelledError"
  | invalidStateError => "InvalidStateError"

/-- The class of a name, the older names of `OSError` included. Exceptions of the event loops are
not found by name. -/
def ofName? (s : String) : Option ExceptionClass :=
  if s == "IOError" || s == "EnvironmentError" then some osError
  else (all.filter fun c => c != cancelledError && c != invalidStateError).find? (·.name == s)

/-- The parent of a class. -/
def parent? : ExceptionClass → Option ExceptionClass
  | baseException => none
  | baseExceptionGroup | exception | generatorExit | keyboardInterrupt | systemExit
  | cancelledError => some baseException
  | exceptionGroup => some baseExceptionGroup
  | arithmeticError | assertionError | attributeError | bufferError | eofError | importError
  | lookupError | memoryError | nameError | osError | referenceError | runtimeError
  | stopAsyncIteration | stopIteration | syntaxError | systemError | typeError | valueError
  | warning | invalidStateError => some exception
  | floatingPointError | overflowError | zeroDivisionError => some arithmeticError
  | moduleNotFoundError => some importError
  | indexError | keyError => some lookupError
  | unboundLocalError => some nameError
  | blockingIOError | childProcessError | connectionError | fileExistsError | fileNotFoundError
  | interruptedError | isADirectoryError | notADirectoryError | permissionError
  | processLookupError | timeoutError => some osError
  | brokenPipeError | connectionAbortedError | connectionRefusedError | connectionResetError =>
    some connectionError
  | notImplementedError | recursionError => some runtimeError
  | indentationError => some syntaxError
  | tabError => some indentationError
  | unicodeError => some valueError
  | unicodeDecodeError | unicodeEncodeError | unicodeTranslateError => some unicodeError
  | bytesWarning | deprecationWarning | encodingWarning | futureWarning | importWarning
  | pendingDeprecationWarning | resourceWarning | runtimeWarning | syntaxWarning | unicodeWarning
  | userWarning => some warning

/-- The ancestors of a class, nearest first. -/
def ancestors : ExceptionClass → List ExceptionClass
  | exceptionGroup => [baseExceptionGroup, exception, baseException]
  | c =>
    match c.parent? with
    | none => []
    | some p =>
      match p.parent? with
      | none => [p]
      | some q =>
        match q.parent? with
        | none => [p, q]
        | some r => match r.parent? with
          | none => [p, q, r]
          | some s => [p, q, r, s]

/-- Whether a class is another one or descends from it. -/
def isSubclassOf (c d : ExceptionClass) : Bool := c == d || c.ancestors.contains d

/-- The class that an operating system error of a number is given. -/
def ofErrno : Int → Option ExceptionClass
  | 11 | 114 | 115 => some blockingIOError
  | 10 => some childProcessError
  | 32 | 108 => some brokenPipeError
  | 103 => some connectionAbortedError
  | 111 => some connectionRefusedError
  | 104 => some connectionResetError
  | 17 => some fileExistsError
  | 2 => some fileNotFoundError
  | 4 => some interruptedError
  | 21 => some isADirectoryError
  | 20 => some notADirectoryError
  | 13 | 1 => some permissionError
  | 3 => some processLookupError
  | 110 => some timeoutError
  | _ => none

end ExceptionClass

end EmbeddedPython
