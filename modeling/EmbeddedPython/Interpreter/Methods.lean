import EmbeddedPython.Asyncio.Methods
import EmbeddedPython.Interpreter.Methods.Number

/-
  Native methods

  The special methods that operators stand for, and the named methods of each
  built-in class.
-/

namespace EmbeddedPython

open EmbeddedPython.Language (BinaryOperator UnaryOperator)

namespace Eval

/-- The operator of a special method, and whether its operands are exchanged. -/
def operatorOf (name : String) : Option (BinaryOperator × Bool) :=
  let all : List BinaryOperator := [.add, .sub, .mul, .matMul, .div, .floorDiv, .mod, .pow, .lshift,
    .rshift, .bitAnd, .bitOr, .bitXor]
  match all.find? fun op => name == "__" ++ op.stem ++ "__" with
  | some op => some (op, false)
  | none => (all.find? fun op => name == "__r" ++ op.stem ++ "__").map fun op => (op, true)

def unaryOperatorOf (name : String) : Option UnaryOperator :=
  match name with
  | "__neg__" => some .neg
  | "__pos__" => some .pos
  | "__invert__" => some .invert
  | _ => none

def comparisonOf (name : String) : Option Comparison :=
  [Comparison.lt, .le, .eq, .ne, .gt, .ge].find? fun c => c.methodName == name

/-- The arguments of a special method, of which there must be a fixed number. -/
def slotArguments (wanted : Nat) (arguments : List Ref) : Eval Unit := do
  if arguments.length ≠ wanted then
    typeError ("expected " ++ toString wanted ++ " argument" ++ (if wanted = 1 then "" else "s")
      ++ ", got " ++ toString arguments.length)

/-- The absolute value of an object. -/
def absolute (m : Machine) (r : Ref) : Eval Ref := do
  match (← special r "__abs__") with
  | some (.member f) => callMember m f r []
  | _ =>
    match (← valueOf r) with
    | .int n => newInt n.natAbs
    | .float x => newFloat (Float.abs x)
    | _ => typeError ("bad operand type for abs(): '" ++ (← typeName r) ++ "'")

/-- An operator on an object of a native class by its special method. -/
def slotOperator (m : Machine) (op : BinaryOperator) (a b : Ref) : Eval Ref := do
  match (← numberOp m op a b), op, (← valueOf a) with
  | some r, _, _ => pure r
  | none, .mod, .text t => do newText (← formatPercent m t b)
  | none, .add, _ => do pure ((← concat a b).getD Ref.notImplemented)
  | none, .mul, _ => do
    match (← repeatSequence m a b) with
    | some r => pure r
    | none => pure Ref.notImplemented
  | _, _, _ => pure Ref.notImplemented

/-- A special method of a native class; `none` for a name that is none. -/
def slotMethod (m : Machine) (owner : Builtin) (name : String) (self : Ref) (arguments : List Ref)
    (keywords : List (Text × Ref)) : Eval (Option Ref) := do
  let answer := fun (body : Eval Ref) => do pure (some (← body))
  match comparisonOf name, operatorOf name, unaryOperatorOf name, arguments with
  | some c, _, _, [b] => answer (nativeCompare m owner c self b)
  | none, some (op, exchanged), _, [b] =>
    answer (if exchanged then slotOperator m op b self else slotOperator m op self b)
  | none, none, some op, [] => answer (unary m op self)
  | some _, _, _, _ | none, some _, _, _ => do
    slotArguments 1 arguments
    pure none
  | none, none, some _, _ => do
    slotArguments 0 arguments
    pure none
  | none, none, none, _ =>
    match name, arguments with
    | "__repr__", [] => do answer (do newText (← nativeRepr m owner self))
    | "__str__", [] => do
      match owner, (← valueOf self) with
      | .str, .text _ => pure (some self)
      | .exception _, _ => answer (do newText (← exceptionText m self))
      | _, _ => answer (do newText (← m.repr self))
    | "__hash__", [] => do
      match (← nativeHash m owner self) with
      | some h => answer (newInt h)
      | none => unhashable self
    | "__len__", [] => do answer (do newInt ((← nativeLength (← valueOf self)).getD 0))
    | "__bool__", [] => do answer (do newBool (← truth m self))
    | "__iter__", [] => answer (nativeIterator owner self)
    | "__next__", [] => do
      match (← m.advance self) with
      | some r => pure (some r)
      | none => throw (← newException .stopIteration [])
    | "__contains__", [b] => answer (do newBool (← contains m self b))
    | "__getitem__", [key] => answer (getItem m self key)
    | "__setitem__", [key, value] => do
      setItem m self key value
      pure (some Ref.none)
    | "__delitem__", [key] => do
      deleteItem m self key
      pure (some Ref.none)
    | "__reversed__", [] => answer (reversedIterator m self)
    | "__abs__", [] => answer (absolute m self)
    | "__round__", [] => answer (rounded m self none)
    | "__round__", [digits] => answer (rounded m self (some digits))
    | "__divmod__", [b] => answer (do
        newTuple [← binary m (formatPercent m) .floorDiv self b,
          ← binary m (formatPercent m) .mod self b])
    | "__float__", [] => answer (do newFloat (← realNumber m self))
    | "__call__", _ => answer (m.call self arguments keywords)
    | "__format__", [specification] => do
      match (← valueOf specification) with
      | .text t => answer (do newText (← formatNative m self t))
      | _ => typeError ("__format__() argument must be str, not " ++ (← typeName specification))
    | "__getattribute__", [n] => do
      answer (do getAttr m self (← textArgument name "'name'" n).toStringLossy)
    | "__setattr__", [n, value] => do
      setAttr m self (← textArgument name "'name'" n).toStringLossy value
      pure (some Ref.none)
    | "__delattr__", [n] => do
      deleteAttr self (← textArgument name "'name'" n).toStringLossy
      pure (some Ref.none)
    | "__init__", _ => pure (some Ref.none)
    | "__getnewargs__", [] => answer (newTuple [self])
    | "__sizeof__", [] => answer (newInt 56)
    | _, _ => pure none

/-- A named method of a class or of its instances. -/
def classMethod (m : Machine) (owner : Builtin) (name : String) (arguments : List Ref) :
    Eval (Option Ref) := do
  match owner, name, arguments with
  | .dict, "fromkeys", _ => do pure (some (← dictFromKeys m arguments))
  | .int, "from_bytes", b :: rest => do
    let bytes ← bytesOf m "bytes" (some b) none
    let little ← littleEndian rest.head?
    let ordered := if little then bytes.reverse else bytes
    let value : Nat := ordered.foldl (fun (n : Nat) x => n * 256 + x.toNat) 0
    pure (some (← newInt value))
  | _, "__new__", cls :: rest => do pure (some (← instantiate m cls rest []))
  | _, "__init_subclass__", _ => pure (some Ref.none)
  | _, "__subclasshook__", _ => pure (some Ref.notImplemented)
  | _, "__class_getitem__", [_] => pure (some (Ref.ofBuiltin owner))
  | _, _, _ => pure none

/-- A method that the class of a native value has under a name. -/
def namedMethod (m : Machine) (owner : Builtin) (name : String) (self : Ref) (arguments : List Ref)
    (keywords : List (Text × Ref)) : Eval (Option Ref) := do
  match owner, (← valueOf self) with
  | .str, .text t => textMethod m name t arguments keywords
  | .bytes, .bytes b => bytesMethod m false self name b arguments keywords
  | .bytearray, .bytes b => bytesMethod m true self name b arguments keywords
  | .list, .list items => listMethod m self name items arguments keywords
  | .tuple, .tuple items => itemsMethod m self "tuple" name items arguments
  | .range, .range a b c => rangeMethod m self name a b c arguments
  | .dict, .dict entries => dictMethod m self name entries arguments keywords
  | .set, .set items => setMethod m self false name items arguments
  | .frozenset, .set items => setMethod m self true name items arguments
  | .int, .int n => intMethod m name n arguments keywords
  | .float, .float x => floatMethod name x arguments
  | .coroutine, .coroutine _ | .generator, .coroutine _ => coroutineMethod m self name arguments
  | .asyncGenerator, .asyncGenerator _ => asyncGeneratorMethod self name arguments
  | .asyncGeneratorStep, _ => if name == "__await__" then pure (some self) else pure none
  | .future, .future f | .task, .future f => futureMethod m self f name arguments
  | .eventLoop, .loop l => loopMethod self l name arguments
  | .slice, .slice a b c =>
    if name == "indices" then do
      let n ← smallIndex m .overflowError (← oneArgument "slice" name arguments)
      let (start, step, count) ← sliceIndices m a b c n.toNat
      pure (some (← newTuple [← newInt start, ← newInt (start + step * count), ← newInt step]))
    else pure none
  | .exception _, .exception _ _ =>
    if name == "with_traceback" then pure (some self)
    else if name == "add_note" then pure (some Ref.none)
    else pure none
  | .type, _ =>
    match name with
    | "mro" => do newList ((← memory).lineage self) >>= fun r => pure (some r)
    | "__subclasses__" => do pure (some (← newList []))
    | "__call__" => do pure (some (← m.call self arguments keywords))
    | "__instancecheck__" => do
      pure (some (Ref.ofBool ((← memory).isInstance (arguments.headD Ref.none) self)))
    | "__subclasscheck__" => do
      pure (some (Ref.ofBool ((← memory).isSubclass (arguments.headD Ref.none) self)))
    | _ => pure none
  | _, _ => pure none

/-- The methods that take keywords. -/
def takesKeywords (name : String) : Bool :=
  ["format", "encode", "decode", "split", "rsplit", "splitlines", "expandtabs", "sort", "update",
    "to_bytes", "__init__", "__call__", "cancel", "call_soon", "call_soon_threadsafe",
    "add_done_callback"].contains name

/-- Calls a native method. -/
def callNative (m : Machine) (owner : Builtin) (name : String) (self : Ref) (arguments : List Ref)
    (keywords : List (Text × Ref)) : Eval Ref := do
  if !keywords.isEmpty && !takesKeywords name then
    if name.startsWith "__" then typeError ("wrapper " ++ name ++ "() takes no keyword arguments")
    else typeError (owner.name ++ "." ++ name ++ "() takes no keyword arguments")
  else
    let found ← if isClassMethod owner name then classMethod m owner name arguments else
      match (← namedMethod m owner name self arguments keywords) with
      | some r => pure (some r)
      | none => slotMethod m owner name self arguments keywords
    match found with
    | some r => pure r
    | none =>
      typeError ("unsupported arguments for " ++ owner.name ++ "." ++ name ++ "()")

/-- Calls a native method that is not bound: its first argument is the object. -/
def callUnbound (m : Machine) (owner : Builtin) (name : String) (arguments : List Ref)
    (keywords : List (Text × Ref)) : Eval Ref := do
  match arguments with
  | [] =>
    typeError ("unbound method " ++ owner.name ++ "." ++ name ++ "() needs an argument")
  | self :: rest =>
    if (← memory).isKind self owner then callNative m owner name self rest keywords
    else
      typeError ("descriptor '" ++ name ++ "' for '" ++ owner.name
        ++ "' objects doesn't apply to a '" ++ (← typeName self) ++ "' object")

end Eval

end EmbeddedPython
