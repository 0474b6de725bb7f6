import EmbeddedPython.Text.Literal
import EmbeddedPython.Interpreter.Building

/-
  Attributes

  Reading an attribute asks the class for a computed attribute, then the object
  itself, then the class for anything else; functions of the class come bound
  to the object. A class with `__getattr__` is asked last. The names of a class
  are looked up in the class and its ancestors.
-/

namespace EmbeddedPython

namespace Eval

def newString (s : String) : Eval Ref := newText s

/-- The value of a computed attribute of a native class; `none` where the name is a method. -/
def nativeData (owner : Builtin) (name : String) (r : Ref) : Eval (Option Ref) := do
  let some' := fun (x : Ref) => (pure (some x) : Eval (Option Ref))
  match name with
  | "__class__" => some' ((← Eval.memory).classOf r)
  | "__origin__" =>
    match (← valueOf r) with
    | .alias origin _ => some' origin
    | _ => pure none
  | "__args__" =>
    match (← valueOf r) with
    | .alias _ parameters => do pure (some (← newTuple parameters))
    | _ => pure none
  | "__doc__" => some' Ref.none
  | "__dict__" =>
    match ((← Eval.memory).object r).attributes with
    | some attributes => do
      let entries ← attributes.mapM fun (a : String × Ref) => do
        pure (Entry.mk (Hash.ofText a.1) (← newString a.1) a.2)
      some' (← make .dict (.dict entries))
    | none => pure none
  | _ =>
  match owner, name, (← valueOf r) with
  | .int, "real", .int n | .int, "numerator", .int n => do some' (← newInt n)
  | .int, "imag", _ => some' (.static (.smallInt 0))
  | .int, "denominator", _ => some' (.static (.smallInt 1))
  | .float, "real", .float x => do some' (← newFloat x)
  | .float, "imag", _ => do some' (← newFloat 0.0)
  | .range, "start", .range a _ _ => do some' (← newInt a)
  | .range, "stop", .range _ b _ => do some' (← newInt b)
  | .range, "step", .range _ _ c => do some' (← newInt c)
  | .slice, "start", .slice a _ _ => some' a
  | .slice, "stop", .slice _ b _ => some' b
  | .slice, "step", .slice _ _ c => some' c
  | .function, "__name__", .function f | .function, "__qualname__", .function f => do
    some' (← newString f.name)
  | .function, "__module__", _ => some' Ref.none
  | .function, "__defaults__", .function f => do
    if f.defaults.isEmpty then some' Ref.none else some' (← newTuple f.defaults)
  | .method, "__func__", .method f _ => some' f
  | .method, "__self__", .method _ self => some' self
  | .nativeFunction, "__name__", .nativeMethod _ n _ => do some' (← newString n)
  | .nativeFunction, "__name__", _ =>
    match r with
    | .static (.function _ n) => do some' (← newString n)
    | _ => pure none
  | .nativeFunction, "__self__", .nativeMethod _ _ self => some' self
  | .property, "fget", .property getter => some' getter
  | .exception _, "args", .exception arguments _ => do some' (← newTuple arguments)
  | .exception _, "__cause__", _ | .exception _, "__context__", _
  | .exception _, "__traceback__", _ => some' Ref.none
  | .exception _, "__suppress_context__", _ => some' (Ref.ofBool false)
  | .exception .stopIteration, "value", .exception arguments _ =>
    some' (arguments.headD Ref.none)
  | .exception .systemExit, "code", .exception arguments _ =>
    match arguments with
    | [] => some' Ref.none
    | [a] => some' a
    | _ => do some' (← newTuple arguments)
  | .exception .osError, "errno", .exception _ (.system number _ _) => some' number
  | .exception .osError, "strerror", .exception _ (.system _ text _) => some' text
  | .exception .osError, "filename", .exception _ (.system _ _ (some file)) => some' file
  | .exception .osError, _, .exception _ _ =>
    if ["errno", "strerror", "filename", "filename2"].contains name then some' Ref.none
    else pure none
  | .exception .syntaxError, "msg", .exception _ (.source text _ _) => some' text
  | .exception .syntaxError, "filename", .exception _ (.source _ file _) => some' file
  | .exception .syntaxError, "lineno", .exception _ (.source _ _ line) => some' line
  | .exception .syntaxError, _, .exception _ _ =>
    if ["offset", "text", "end_lineno", "end_offset", "print_file_and_line"].contains name then
      some' Ref.none
    else pure none
  | .exception .importError, "msg", .exception _ (.importing text _) => some' text
  | .exception .importError, "name", .exception _ (.importing _ n) => some' n
  | .exception .importError, _, .exception _ _ =>
    if ["msg", "name", "path"].contains name then some' Ref.none else pure none
  | .exception .attributeError, "name", _ | .exception .attributeError, "obj", _
  | .exception .nameError, "name", _ => some' Ref.none
  | .exception .baseExceptionGroup, "message", .exception _ (.group text _) => some' text
  | .exception .baseExceptionGroup, "exceptions", .exception _ (.group _ members) => do
    some' (← newTuple members)
  | .exception _, "encoding", .exception _ (.encoding codec ..) => some' codec
  | .exception _, "object", .exception _ (.encoding _ object ..) => some' object
  | .exception _, "start", .exception _ (.encoding _ _ start _ _) => do some' (← newInt start)
  | .exception _, "end", .exception _ (.encoding _ _ _ stop _) => do some' (← newInt stop)
  | .exception _, "reason", .exception _ (.encoding _ _ _ _ reason) => some' reason
  | .list, "__hash__", _ | .dict, "__hash__", _ | .set, "__hash__", _
  | .bytearray, "__hash__", _ | .slice, "__hash__", _ => some' Ref.none
  | _, _, _ => pure none

/-- The native methods that belong to their class instead of its instances. -/
def isClassMethod (owner : Builtin) (name : String) : Bool :=
  match owner, name with
  | .dict, "fromkeys" | .int, "from_bytes" | .float, "fromhex" | .bytes, "fromhex"
  | .bytearray, "fromhex" | .str, "maketrans" | .bytes, "maketrans" | .bytearray, "maketrans"
  | _, "__class_getitem__" | _, "__new__" | _, "__init_subclass__" | _, "__subclasshook__" => true
  | _, _ => false

/-- A member of a class as an attribute of an object. -/
def bindMember (f r : Ref) : Eval Ref := do
  match f with
  | .static (.method owner name) =>
    make .nativeFunction (.nativeMethod owner name r)
  | _ =>
    match (← valueOf f) with
    | .function _ => make .method (.method f r)
    | _ => pure f

/-- What a name of a class is computed from, if it is computed. -/
def classData (m : Machine) (cls : Ref) (name : String) : Eval (Option Ref) := do
  let memory ← memory
  match name with
  | "__name__" | "__qualname__" =>
    match memory.class? cls with
    | some (.made info) =>
      match info.nameOutcome, name with
      | some outcome, "__name__" => do pure (some (← perform m cls [] [] outcome))
      | _, _ => do pure (some (← newString info.name))
    | _ => do pure (some (← newString (memory.className cls)))
  | "__module__" =>
    match memory.class? cls with
    | some (.builtin c) => do pure (some (← newString (c.moduleName?.getD "builtins")))
    | _ => pure none
  | "__class__" => pure (some (Ref.ofBuiltin .type))
  | "__bases__" =>
    match memory.class? cls with
    | some (.made info) => do pure (some (← newTuple info.bases))
    | _ => do pure (some (← newTuple ((memory.lineage cls).tail.take 1)))
  | "__base__" => pure (some ((memory.lineage cls).tail.headD Ref.none))
  | "__mro__" => do pure (some (← newTuple (memory.lineage cls)))
  | "__doc__" => pure (some Ref.none)
  | "__dict__" =>
    match memory.class? cls with
    | some (.made info) => do
      let entries ← info.members.mapM fun (a : String × Ref) => do
        pure (Entry.mk (Hash.ofText a.1) (← newString a.1) a.2)
      pure (some (← make .dict (.dict entries)))
    | _ => do pure (some (← make .dict (.dict [])))
  | _ => pure none

/-- The attribute of a class. -/
def findClassAttr (m : Machine) (cls : Ref) (name : String) : Eval (Option Ref) := do
  match (← classData m cls name) with
  | some r => pure (some r)
  | none =>
    match (← Eval.memory).find cls name with
    | some (.member r) => pure (some r)
    | some (.native owner) =>
      if isClassMethod owner name then do
        pure (some (← make .nativeFunction (.nativeMethod owner name cls)))
      else if name == "__hash__" && [Builtin.list, .dict, .set, .bytearray, .slice].contains owner then
        pure (some Ref.none)
      else pure (some (.static (.method owner name)))
    | none =>
      if name == "__module__" then do pure (some (← newString "builtins"))
      else if Builtin.type.members.contains name then do
        pure (some (← make .nativeFunction (.nativeMethod .type name cls)))
      else pure none

/-- The attribute that an object keeps itself. -/
def ownAttr (r : Ref) (name : String) : Eval (Option Ref) := do
  match ((← Eval.memory).object r).attributes with
  | some attributes => pure (attributes.lookup name)
  | none => pure none

/-- Whether the instances of a class have a native attribute of a name that is on no list of
members: classes made by programs have a few such names. -/
def isImplicit (memory : Memory) (r : Ref) (name : String) : Bool :=
  match memory.class? (memory.classOf r) with
  | some (.made _) => name == "__module__" || name == "__weakref__" || name == "__dict__"
  | _ => false

/-- Raises the error of an attribute that is not there. -/
def noAttribute {α : Type} (r : Ref) (name : String) : Eval α := do
  let memory ← memory
  let owner : String := match memory.class? r, memory.valueOf r with
    | some _, _ => "type object '" ++ memory.className r ++ "'"
    | none, .module n => "module '" ++ n ++ "'"
    | none, _ => "'" ++ memory.typeName r ++ "' object"
  raise .attributeError (owner ++ " has no attribute '" ++ name ++ "'")

/-- The attribute of an object, `__getattr__` apart. -/
def findAttr (m : Machine) (r : Ref) (name : String) : Eval (Option Ref) := do
  if ((← Eval.memory).class? r).isSome then findClassAttr m r name
  else
    let found ← special r name
    let data ← match found with
      | some (.member f) =>
        match (← valueOf f) with
        | .property getter => do pure (some (← m.call getter [r] []))
        | _ => pure none
      | some (.native owner) => nativeData owner name r
      | none => pure none
    match data with
    | some x => pure (some x)
    | none =>
      match (← ownAttr r name) with
      | some x => pure (some x)
      | none =>
        match found, (← valueOf r) with
        | some (.member f), _ => do pure (some (← bindMember f r))
        | some (.native owner), _ =>
          if isClassMethod owner name then do
            pure (some (← make .nativeFunction (.nativeMethod owner name ((← Eval.memory).classOf r))))
          else do pure (some (← make .nativeFunction (.nativeMethod owner name r)))
        | none, .alias origin _ => do
          match (← findClassAttr m origin name) with
          | some x => pure (some x)
          | none => noAttribute origin name
        | none, .method f _ =>
          match (← special f name) with
          | some (.native owner) => nativeData owner name f
          | _ => ownAttr f name
        | none, _ =>
          if isImplicit (← Eval.memory) r name then
            match (← nativeData .object name r) with
            | some x => pure (some x)
            | none => pure (some Ref.none)
          else pure none

/-- The attribute of an object. -/
def getAttr (m : Machine) (r : Ref) (name : String) : Eval Ref := do
  let ordinary : Eval Ref := do
    match (← findAttr m r name) with
    | some x => pure x
    | none => noAttribute r name
  match (← special r "__getattr__") with
  | some (.member f) =>
    rescue .attributeError ordinary fun _ => do callMember m f r [← newString name]
  | _ => ordinary

/-- The attribute of an object, if it has one. Other errors than that of a missing attribute
remain. -/
def getAttr? (m : Machine) (r : Ref) (name : String) : Eval (Option Ref) :=
  rescue .attributeError (do pure (some (← getAttr m r name))) fun _ => pure none

/-- The pairs with the value of a name set. -/
def withName (names : List (String × Ref)) (name : String) (value : Ref) : List (String × Ref) :=
  if (names.lookup name).isSome then
    names.map fun p => if p.1 == name then (name, value) else p
  else names ++ [(name, value)]

/-- Sets an attribute that an object keeps itself. -/
def setOwnAttr (r : Ref) (name : String) (value : Ref) : Eval Unit := do
  let o := (← Eval.memory).object r
  match o.attributes with
  | some attributes =>
    putAttributes r (withName attributes name value)
  | none =>
    match (← special r name) with
    | some _ =>
      raise .attributeError ("'" ++ (← typeName r) ++ "' object attribute '" ++ name
        ++ "' is read-only")
    | none => noAttribute r name

/-- Sets a computed attribute of a native class. -/
def setNativeData (m : Machine) (owner : Builtin) (r : Ref) (name : String) (value : Ref) :
    Eval Unit := do
  match owner, name, (← valueOf r) with
  | .exception _, "args", .exception _ details =>
    setValue r (.exception (← iterate m value) details)
  | .exception _, "__cause__", _ | .exception _, "__context__", _
  | .exception _, "__traceback__", _ | .exception _, "__suppress_context__", _ => pure ()
  | .exception .syntaxError, "msg", .exception arguments (.source _ file line) =>
    setValue r (.exception arguments (.source value file line))
  | .exception .osError, "filename", .exception arguments (.system number text _) =>
    setValue r (.exception arguments (.system number text (some value)))
  | .function, "__name__", .function _ =>
    match (← valueOf value) with
    | .text t => rename r t.toStringLossy
    | _ => typeError "__name__ must be set to a string object"
  | _, _, _ =>
    raise .attributeError ("attribute '" ++ name ++ "' of '" ++ owner.name
      ++ "' objects is not writable")

/-- Gives an object another class, which must be laid out like its own. -/
def setClass (r cls : Ref) : Eval Unit := do
  let memory ← memory
  match memory.class? (memory.classOf r), memory.class? cls with
  | _, none =>
    typeError ("__class__ must be set to a class, not '" ++ memory.typeName cls ++ "' object")
  | some (.made _), some (.made _) =>
    if memory.kindOf r == memory.nearestBuiltin cls then putClass r cls
    else
      typeError ("__class__ assignment: '" ++ memory.className cls
        ++ "' object layout differs from '" ++ memory.typeName r ++ "'")
  | _, _ =>
    typeError "__class__ assignment only supported for mutable types or ModuleType subclasses"

/-- Puts other attributes in the place of those that an object keeps. -/
def setAttributes (r attributes : Ref) : Eval Unit := do
  match (← valueOf attributes) with
  | .dict entries => do
    let named ← entries.filterMapM fun e => do
      match (← valueOf e.key) with
      | .text t => pure (some (t.toStringLossy, e.value))
      | _ => pure none
    putAttributes r named
  | _ =>
    typeError ("__dict__ must be set to a dictionary, not a '" ++ (← typeName attributes) ++ "'")

/-- Sets an attribute of an object. -/
def setAttr (m : Machine) (r : Ref) (name : String) (value : Ref) : Eval Unit := do
  match (← Eval.memory).class? r with
  | some (.builtin c) =>
    raise .typeError ("cannot set " ++ (Text.ofString name).literal
      ++ Text.ofString (" attribute of immutable type '" ++ c.name ++ "'"))
  | some (.made info) =>
    if name == "__dict__" then
      raise .attributeError "attribute '__dict__' of 'type' objects is not writable"
    else if name == "__class__" then setClass r value
    else if name == "__name__" then
      match (← valueOf value) with
      | .text t => setValue r (.cls { info with name := t.toStringLossy, nameOutcome := none })
      | _ => typeError ("can only assign string to " ++ info.name ++ ".__name__, not '"
          ++ (← typeName value) ++ "'")
    else setValue r (.cls { info with members := withName info.members name value })
  | none =>
    match (← special r "__setattr__") with
    | some (.member f) => do
      let _ ← callMember m f r [← newString name, value]
      pure ()
    | _ =>
      if name == "__class__" then setClass r value
      else if name == "__dict__" && ((← Eval.memory).object r).attributes.isSome then setAttributes r value
      else match (← special r name) with
      | some (.member f) =>
        match (← valueOf f) with
        | .property _ =>
          raise .attributeError ("property '" ++ name ++ "' of '" ++ (← typeName r)
            ++ "' object has no setter")
        | _ => setOwnAttr r name value
      | some (.native owner) =>
        match (← nativeData owner name r) with
        | some _ => setNativeData m owner r name value
        | none => setOwnAttr r name value
      | none => setOwnAttr r name value

/-- Takes an attribute away. -/
def deleteAttr (r : Ref) (name : String) : Eval Unit := do
  let memory ← memory
  match memory.class? r with
  | some (.builtin c) =>
    raise .typeError ("cannot set " ++ (Text.ofString name).literal
      ++ Text.ofString (" attribute of immutable type '" ++ c.name ++ "'"))
  | some (.made info) =>
    if (info.members.lookup name).isSome then
      setValue r (.cls { info with members := info.members.filter (·.1 != name) })
    else noAttribute r name
  | none =>
    let o := memory.object r
    match o.attributes with
    | some attributes =>
      if (attributes.lookup name).isSome then
        putAttributes r (attributes.filter (·.1 != name))
      else noAttribute r name
    | none => noAttribute r name

end Eval

end EmbeddedPython
