import EmbeddedPython.Interpreter.Attribute
import EmbeddedPython.Text.Literal

/-
  The texts of objects

  Every object has a form that shows what it is, and a text. A container that
  holds itself is shown by dots inside itself.
-/

namespace EmbeddedPython

namespace Eval

/-- Notes the containers whose text is being made. -/
def setShowing (containers : List Ref) : Eval Unit :=
  note (fun m => { m with showing := containers }) (fun _ => rfl) fun _ => rfl

/-- Makes the form of a container, or dots if it is being made already. -/
def showing (r : Ref) (dots : String) (body : Eval Text) : Eval Text := do
  let before := (← Eval.memory).showing
  if before.contains r then pure dots
  else
    setShowing (r :: before)
    try
      let t ← body
      setShowing before
      pure t
    catch e =>
      setShowing before
      throw e

def reprAll (m : Machine) (items : List Ref) : Eval Text := do
  pure (Text.intercalate ", " (← items.mapM m.repr))

/-- The name that a class is shown by. -/
def shownClass (memory : Memory) (cls : Ref) : String :=
  match memory.class? cls with
  | some (.builtin c) => c.moduleName?.elim "" (· ++ ".") ++ c.name
  | _ => memory.className cls

/-- The form of an exception. -/
def reprException (m : Machine) (r : Ref) (arguments : List Ref) : Eval Text := do
  let name : Text := Text.ofString (← typeName r)
  match arguments with
  | [a] => do pure (name ++ "(" ++ (← m.repr a) ++ ")")
  | _ => do pure (name ++ (← m.repr (← newTuple arguments)))

/-- An address to show. Objects stand sixteen bytes apart. -/
def address : Ref → String
  | .cell id => "0x7f" ++ Text.hexField 10 (0x1000000 + 16 * id)
  | .static _ => "0x7f0000000000"

/-- The form of an object that is shown by its class and address. -/
def reprPlain (r : Ref) : Eval Text := do
  let memory ← memory
  pure ("<" ++ shownClass memory (memory.classOf r) ++ " object at " ++ address r ++ ">")

/-- The form that the native method of a class answers. -/
def nativeRepr (m : Machine) (owner : Builtin) (r : Ref) : Eval Text := do
  let v ← valueOf r
  match owner, v with
  | .none, _ => pure "None"
  | .notImplemented, _ => pure "NotImplemented"
  | .ellipsis, _ => pure "Ellipsis"
  | .bool, .int n => pure (if n = 0 then "False" else "True")
  | .int, .int n => pure (Text.ofString (toString n))
  | .float, .float x => pure (Text.ofString (Binary64.literal x))
  | .str, .text t => pure t.literal
  | .bytes, .bytes b => pure (Text.bytesLiteral b)
  | .bytearray, .bytes b => do
    pure (Text.ofString (← typeName r) ++ "(" ++ Text.bytesLiteral b ++ ")")
  | .tuple, .tuple items =>
    showing r "(...)" do
      match items with
      | [a] => do pure ("(" ++ (← m.repr a) ++ ",)")
      | _ => do pure ("(" ++ (← reprAll m items) ++ ")")
  | .list, .list items => showing r "[...]" do pure ("[" ++ (← reprAll m items) ++ "]")
  | .dict, .dict entries =>
    showing r "\x7b...\x7d" do
      let shown ← entries.mapM fun e => do
        let key ← m.repr e.key
        pure (key ++ ": " ++ (← m.repr e.value))
      pure ("\x7b" ++ Text.intercalate ", " shown ++ "\x7d")
  | .set, .set items | .frozenset, .set items => do
    let name : Text := Text.ofString (← typeName r)
    if items.isEmpty then pure (name ++ "()")
    else
      showing r ((← typeName r) ++ "(...)") do
        let inner : Text := "\x7b" ++ (← reprAll m (SlotTable.order items)) ++ "\x7d"
        if (← memory).isExactly r .set then pure inner
        else pure (name ++ "(" ++ inner ++ ")")
  | .range, .range a b c =>
    pure (Text.ofString ("range(" ++ toString a ++ ", " ++ toString b
      ++ (if c = 1 then "" else ", " ++ toString c) ++ ")"))
  | .slice, .slice a b c => do pure ("slice(" ++ (← reprAll m [a, b, c]) ++ ")")
  | .type, _ => pure (Text.ofString ("<class '" ++ shownClass (← memory) r ++ "'>"))
  | .sample, _ => pure (Text.ofString ("<" ++ (← typeName r) ++ ">"))
  | .exception _, .exception arguments _ => reprException m r arguments
  | .alias, .alias origin parameters => do
    let memory ← memory
    let shown ← parameters.mapM fun p => do
      if (memory.class? p).isSome then pure (Text.ofString (shownClass memory p))
      else if p == .static .ellipsis then pure "..."
      else m.repr p
    pure (Text.ofString (shownClass memory origin) ++ "["
      ++ (if shown.isEmpty then ("()" : Text) else Text.intercalate ", " shown) ++ "]")
  | .module, .module name => pure (Text.ofString ("<module '" ++ name ++ "'>"))
  | .function, .function f =>
    pure (Text.ofString ("<function " ++ f.name ++ " at " ++ address r ++ ">"))
  | .method, .method f self => do
    let name := match (← valueOf f) with
      | .function g => g.name
      | _ => "?"
    pure ("<bound method " ++ Text.ofString (name ++ " of ") ++ (← m.repr self) ++ ">")
  | .nativeFunction, .nativeMethod _ name self => do
    pure (Text.ofString ("<built-in method " ++ name ++ " of " ++ (← typeName self)
      ++ " object at " ++ address self ++ ">"))
  | .nativeFunction, _ =>
    match r with
    | .static (.function _ name) => pure (Text.ofString ("<built-in function " ++ name ++ ">"))
    | _ => reprPlain r
  | .nativeMethod, _ =>
    match r with
    | .static (.method c name) =>
      pure (Text.ofString ("<method '" ++ name ++ "' of '" ++ c.name ++ "' objects>"))
    | _ => reprPlain r
  | .dictKeys, .view kind d | .dictValues, .view kind d | .dictItems, .view kind d => do
    let items ← viewItems kind (← entriesOf d)
    pure (Text.ofString (← typeName r) ++ "([" ++ (← reprAll m items) ++ "])")
  | _, _ => reprPlain r

/-- The form of an object. -/
def reprOf (m : Machine) (r : Ref) : Eval Text := do
  match (← special r "__repr__") with
  | some (.member f) =>
    let result ← callMember m f r []
    match (← valueOf result) with
    | .text t => pure t
    | _ => typeError ("__repr__ returned non-string (type " ++ (← typeName result) ++ ")")
  | some (.native owner) => nativeRepr m owner r
  | none => reprPlain r

/-- What a method of a program answers for the text of an object. -/
def textFrom (m : Machine) (f r : Ref) : Eval Text := do
  let result ← callMember m f r []
  match (← valueOf result) with
  | .text t => pure t
  | _ => typeError ("__str__ returned non-string (type " ++ (← typeName result) ++ ")")

/-- The text of an object. Without one of its own it is the form. -/
def strOf (m : Machine) (r : Ref) : Eval Text := do
  match (← special r "__str__") with
  | some (.member f) => textFrom m f r
  | some (.native .str) =>
    match (← valueOf r) with
    | .text t => pure t
    | _ => m.repr r
  | some (.native (.exception _)) => exceptionText m r
  | _ =>
    match (← special r "__repr__") with
    | some (.member f) => textFrom m f r
    | _ => m.repr r

end Eval

end EmbeddedPython
