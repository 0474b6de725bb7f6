import EmbeddedPython.Interpreter.Iteration
import EmbeddedPython.Text.Digits

/-
  Exceptions

  How an exception is made from a class and arguments, and the text it has.
  Most exceptions show their arguments; some read fields out of them and show
  those.
-/

namespace EmbeddedPython

namespace Eval

/-- The nearest built-in exception class of a class. -/
def exceptionKind (memory : Memory) (cls : Ref) : Option ExceptionClass :=
  (memory.lineage cls).findSome? fun c =>
    match c with
    | .static (.builtin (.exception e)) => some e
    | _ => none

/-- Raises the error of a native function that takes a fixed number of arguments. -/
def exactly {α : Type} (what : String) (wanted given : Nat) : Eval α :=
  typeError (what ++ " takes exactly " ++ toString wanted ++ " argument"
    ++ (if wanted = 1 then "" else "s") ++ " (" ++ toString given ++ " given)")

/-- The fields of an error of text encoding. -/
def encodingDetails (m : Machine) (wantsBytes : Bool) (arguments : List Ref) :
    Eval ErrorDetails := do
  match arguments with
  | [codec, object, start, stop, reason] =>
    let wanted := fun (n : Nat) (what : String) (r : Ref) => do
      typeError (α := Unit) ("argument " ++ toString n ++ " must be " ++ what ++ ", not "
        ++ (← typeName r))
    if !(← isKind codec .str) then wanted 1 "str" codec
    if wantsBytes then
      if !((← isKind object .bytes) || (← isKind object .bytearray)) then
        typeError ("a bytes-like object is required, not '" ++ (← typeName object) ++ "'")
    else if !(← isKind object .str) then wanted 2 "str" object
    let start ← smallIndex m .overflowError start
    let stop ← smallIndex m .overflowError stop
    if !(← isKind reason .str) then wanted 5 "str" reason
    pure (.encoding codec object start stop reason)
  | _ => exactly "function" 5 arguments.length

/-- The fields of a group of exceptions. -/
def groupDetails (m : Machine) (exceptionsOnly : Bool) (arguments : List Ref) :
    Eval ErrorDetails := do
  match arguments with
  | [text, members] =>
    if !(← isKind text .str) then
      typeError ("BaseExceptionGroup.__new__() argument 1 must be str, not " ++ (← typeName text))
    if !(← isSequence members) then
      typeError "second argument (exceptions) must be a sequence"
    let items ← iterate m members
    if items.isEmpty then
      valueError "second argument (exceptions) must be a non-empty sequence"
    let memory ← memory
    match items.findIdx? fun e => !memory.isException e .baseException with
    | some i =>
      valueError ("Item " ++ toString i ++ " of second argument (exceptions) is not an exception")
    | none => pure ()
    if exceptionsOnly && items.any fun e => !memory.isException e .exception then
      typeError "Cannot nest BaseExceptions in an ExceptionGroup"
    pure (.group text items)
  | _ => exactly "BaseExceptionGroup.__new__()" 2 arguments.length

/-- What an exception of a class keeps beside its arguments, and the arguments that it keeps. -/
def detailsOf (m : Machine) (kind : ExceptionClass) (arguments : List Ref) :
    Eval (List Ref × ErrorDetails) := do
  if kind.isSubclassOf .osError then
    match arguments with
    | [number, text] => pure (arguments, .system number text none)
    | number :: text :: file :: rest =>
      if rest.length ≤ 2 then
        pure (if file == Ref.none then arguments else [number, text],
          .system number text (if file == Ref.none then none else some file))
      else pure (arguments, .nothing)
    | _ => pure (arguments, .nothing)
  else if kind.isSubclassOf .syntaxError then
    match arguments with
    | [text, place] =>
      match (← iterate m place) with
      | [file, line, _, _] | [file, line, _, _, _, _] => pure (arguments, .source text file line)
      | items =>
        if items.length = 5 then
          typeError "end_offset must be provided when end_lineno is provided"
        else
          let bound := if items.length < 4 then "at least 4" else "at most 6"
          typeError ("function takes " ++ bound ++ " arguments (" ++ toString items.length
            ++ " given)")
    | text :: _ => pure (arguments, .source text Ref.none Ref.none)
    | [] => pure (arguments, .source Ref.none Ref.none Ref.none)
  else if kind.isSubclassOf .importError then
    match arguments with
    | [text] => pure (arguments, .importing text Ref.none)
    | _ => pure (arguments, .nothing)
  else match kind with
    | .unicodeDecodeError => do pure (arguments, ← encodingDetails m true arguments)
    | .unicodeEncodeError => do pure (arguments, ← encodingDetails m false arguments)
    | .unicodeTranslateError =>
      match arguments with
      | [object, start, stop, reason] => do
        let details ← encodingDetails m false [.static (.shortText ⟨[]⟩), object, start, stop, reason]
        pure (arguments, details)
      | _ => exactly "function" 4 arguments.length
    | .baseExceptionGroup => do pure (arguments, ← groupDetails m false arguments)
    | .exceptionGroup => do pure (arguments, ← groupDetails m true arguments)
    | _ => pure (arguments, .nothing)

/-- The class that an exception is given: errors of the operating system with a known number
have a class of their own, and a group of plain exceptions is a plain group. -/
def refinedClass (m : Machine) (cls : Ref) (details : ErrorDetails) : Eval Ref := do
  match details with
  | .system number _ _ =>
    if cls == Ref.ofExceptionClass .osError then
      let _ ← m.hash number
      match (← valueOf number) with
      | .int n => pure ((ExceptionClass.ofErrno n).elim cls Ref.ofExceptionClass)
      | _ => pure cls
    else pure cls
  | .group _ members =>
    let memory ← memory
    if cls == Ref.ofExceptionClass .baseExceptionGroup
        && members.all fun e => memory.isException e .exception then
      pure (Ref.ofExceptionClass .exceptionGroup)
    else pure cls
  | _ => pure cls

/-- Makes an exception of a class from arguments. -/
def construct (m : Machine) (cls : Ref) (arguments : List Ref) : Eval Ref := do
  let kind := (exceptionKind (← memory) cls).getD .baseException
  let (kept, details) ← detailsOf m kind arguments
  let cls ← refinedClass m cls details
  alloc cls (.exception kept details) (some [])

/-! Texts of exceptions -/

/-- The text of an exception that shows its arguments. -/
def argumentsText (m : Machine) (arguments : List Ref) : Eval Text := do
  match arguments with
  | [] => pure Text.empty
  | [a] => m.str a
  | _ => do m.repr (← newTuple arguments)

/-- A code point as errors of text encoding name it. -/
def escapedPoint (c : Nat) : String :=
  if c ≤ 0xFF then "\\x" ++ Text.hexField 2 c
  else if c ≤ 0xFFFF then "\\u" ++ Text.hexField 4 c
  else "\\U" ++ Text.hexField 8 c

/-- The text of an error of text encoding. -/
def encodingText (m : Machine) (kind : ExceptionClass) (codec object : Ref) (start stop : Int)
    (reason : Ref) : Eval Text := do
  let quote : Text := "'"
  let reason ← m.str reason
  let codec ← m.str codec
  let opening : Text :=
    if kind = .unicodeTranslateError then "" else quote ++ codec ++ "' codec "
  let verb : Text := match kind with
    | .unicodeDecodeError => "can't decode "
    | .unicodeTranslateError => "can't translate "
    | _ => "can't encode "
  let single := stop == start + 1
  let what : Text ← match kind, single, (← valueOf object) with
    | .unicodeDecodeError, true, .bytes b =>
      pure (Text.ofString ("byte 0x" ++ Text.hexField 2 (b.getD start.toNat 0).toNat))
    | .unicodeDecodeError, _, _ => pure (Text.ofString "bytes")
    | _, true, .text t =>
      pure (Text.ofString ("character '" ++ escapedPoint (t.points.getD start.toNat 0) ++ "'"))
    | _, _, _ => pure (Text.ofString "characters")
  let place : Text := if single then toString start else toString start ++ "-" ++ toString (stop - 1)
  pure (opening ++ verb ++ what ++ " in position " ++ place ++ ": " ++ reason)

/-- The last part of a path. -/
def lastPart (t : Text) : Text := ⟨(t.points.reverse.takeWhile (· != 0x2F)).reverse⟩

/-- The text that the native method of an exception class answers. -/
def exceptionText (m : Machine) (r : Ref) : Eval Text := do
  match (← valueOf r) with
  | .exception arguments details =>
    let kind := (exceptionKind (← memory) ((← memory).classOf r)).getD .baseException
    match details with
    | .system number text file => do
      let opening := (("[Errno " : Text) ++ (← m.str number)) ++ "] " ++ (← m.str text)
      match file with
      | none => pure opening
      | some f => do pure (opening ++ ": " ++ (← m.repr f))
    | .source text file line =>
      let shown ← m.str text
      let file? ← match (← valueOf file) with
        | .text t => pure (some (lastPart t))
        | _ => pure none
      let line? ← match (← valueOf line) with
        | .int n => pure (if (← memory).isExactly line .int then some n else none)
        | _ => pure none
      match file?, line? with
      | none, none => pure shown
      | some f, none => pure (shown ++ " (" ++ f ++ ")")
      | none, some n => pure (shown ++ " (line " ++ Text.ofString (toString n) ++ ")")
      | some f, some n =>
        pure (shown ++ " (" ++ f ++ ", line " ++ Text.ofString (toString n) ++ ")")
    | .encoding codec object start stop reason =>
      encodingText m kind codec object start stop reason
    | .importing text _ =>
      match (← valueOf text) with
      | .text t => pure t
      | _ => argumentsText m arguments
    | .group text members => do
      let n := members.length
      pure ((← m.str text) ++ " (" ++ Text.ofString (toString n) ++ " sub-exception"
        ++ (if n = 1 then "" else "s") ++ ")")
    | .nothing =>
      match kind, arguments with
      | .keyError, [key] => m.repr key
      | _, _ => argumentsText m arguments
  | _ => pure Text.empty

/-- Raises the object of a `raise`: an exception, or a class of exceptions. -/
def raiseObject {α : Type} (m : Machine) (r : Ref) : Eval α := do
  let memory ← memory
  if memory.isException r .baseException then throw r
  else if (memory.class? r).isSome && memory.isSubclass r (Ref.ofExceptionClass .baseException) then
    let e ← m.call r [] []
    if (← Eval.memory).isException e .baseException then throw e
    else
      let found := (← Eval.memory).classOf e
      typeError ("calling " ++ (← m.repr r).toStringLossy
        ++ " should have returned an instance of BaseException, not "
        ++ (← m.repr found).toStringLossy)
  else typeError "exceptions must derive from BaseException"

end Eval

end EmbeddedPython
