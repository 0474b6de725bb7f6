import EmbeddedPython.Decimal.Reading
import EmbeddedPython.Interpreter.Formatting

/-
  Making instances of classes

  A built-in class makes an instance from the arguments that it understands and
  says which ones it does not. A class of a program makes an instance of the
  built-in class that it descends from and runs its own initializer.
-/

namespace EmbeddedPython

namespace Eval

/-! Numbers of arguments -/

/-- Raises the error of a wrong number of arguments. -/
def expected {α : Type} (name : String) (how : String) (wanted given : Nat) : Eval α :=
  typeError (name ++ " expected " ++ how ++ toString wanted ++ " argument"
    ++ (if wanted = 1 then "" else "s") ++ ", got " ++ toString given)

/-- Checks that there are from `least` to `most` arguments. -/
def checkCount (name : String) (least most given : Nat) : Eval Unit := do
  if least = most && given ≠ least then expected name "" least given
  else if given < least then expected name "at least " least given
  else if most < given then expected name "at most " most given

def noKeywords (name : String) (keywords : List (Text × Ref)) : Eval Unit := do
  if !keywords.isEmpty then typeError (name ++ "() takes no keyword arguments")

/-- Fills named parameters from arguments and keywords, as native functions with names do. -/
def fillNamed (name : String) (parameters : List String) (arguments : List Ref)
    (keywords : List (Text × Ref)) : Eval (List (Option Ref)) := do
  let given := arguments.length + keywords.length
  if parameters.length < given then
    typeError (name ++ "() takes at most " ++ toString parameters.length ++ " argument"
      ++ (if parameters.length = 1 then "" else "s") ++ " (" ++ toString given ++ " given)")
  match keywords.find? fun k => !(parameters.any fun p => Text.ofString p == k.1) with
  | some k =>
    raise .typeError (("'" : Text) ++ k.1 ++ ("' is an invalid keyword argument for "
      ++ name ++ "()"))
  | none =>
    match (parameters.take arguments.length).zipIdx.find? fun p =>
        keywords.any fun k => k.1 == Text.ofString p.1 with
    | some p =>
      typeError ("argument for " ++ name ++ "() given by name ('" ++ p.1 ++ "') and position ("
        ++ toString (p.2 + 1) ++ ")")
    | none =>
      pure (parameters.zipIdx.map fun p =>
        match arguments[p.2]? with
        | some r => some r
        | none => (keywords.find? fun k => k.1 == Text.ofString p.1).map (·.2))

/-! Numbers -/

/-- The integer that a double is cut to. -/
def truncated (x : Float) : Eval Int :=
  match Binary64.toRatio? x with
  | some (negative, num, den) =>
    let n : Int := (num / den : Nat)
    pure (if negative then -n else n)
  | none =>
    if x == x then raise .overflowError "cannot convert float infinity to integer"
    else valueError "cannot convert float NaN to integer"

/-- The integer that a text spells to a base. -/
def intOfPoints (base : Nat) (cs : List Nat) (shown : Text) : Eval Int :=
  match Decimal.int? base cs with
  | some n => pure n
  | none =>
    raise .valueError (("invalid literal for int() with base " : Text)
      ++ Text.ofString (toString base) ++ ": " ++ shown)

/-- The integer of an object that has a method to make one. -/
def intByMethod (m : Machine) (f : Ref) (name : String) (r : Ref) : Eval Int := do
  let result ← callMember m f r []
  match (← valueOf result) with
  | .int n => pure n
  | _ => typeError (name ++ " returned non-int (type " ++ (← typeName result) ++ ")")

/-- The integer that an object is converted to. -/
def toInt (m : Machine) (r : Ref) : Eval Int := do
  match (← special r "__int__"), (← special r "__index__"), (← special r "__trunc__") with
  | some (.member f), _, _ => intByMethod m f "__int__" r
  | _, some (.member f), _ => intByMethod m f "__index__" r
  | found, _, trunc =>
    match (← valueOf r), found, trunc with
    | .int n, _, _ => pure n
    | .float x, _, _ => truncated x
    | _, none, some (.member f) => intByMethod m f "__trunc__" r
    | .text t, _, _ => intOfPoints 10 t.points (← m.repr r)
    | .bytes b, _, _ => intOfPoints 10 (b.map UInt8.toNat) (← m.repr r)
    | _, _, _ =>
      typeError ("int() argument must be a string, a bytes-like object or a real number, not '"
        ++ (← typeName r) ++ "'")

def intOf (m : Machine) (x base : Option Ref) : Eval Int := do
  match x, base with
  | none, none => pure 0
  | none, some _ => typeError "int() missing string argument"
  | some x, none => toInt m x
  | some x, some base =>
    let n ← index m base
    if n ≠ 0 ∧ (n < 2 ∨ 36 < n) then valueError "int() base must be >= 2 and <= 36, or 0"
    else
      match (← valueOf x) with
      | .text t => intOfPoints n.toNat t.points (← m.repr x)
      | .bytes b => intOfPoints n.toNat (b.map UInt8.toNat) (← m.repr x)
      | _ => typeError "int() can't convert non-string with explicit base"

def floatOfPoints (cs : List Nat) (shown : Text) : Eval Float :=
  match Decimal.float? cs with
  | some x => pure x
  | none => raise .valueError (("could not convert string to float: " : Text) ++ shown)

/-- The double that a number stands for; `none` if the object is no number. -/
def realNumber? (m : Machine) (r : Ref) : Eval (Option Float) := do
  match (← special r "__float__"), (← special r "__index__") with
  | some (.member f), _ =>
    let result ← callMember m f r []
    match (← valueOf result) with
    | .float x => pure (some x)
    | _ => typeError ((← typeName r) ++ ".__float__ returned non-float (type "
        ++ (← typeName result) ++ ")")
  | none, some (.member _) => do pure (some (← floatOfInt (← index m r)))
  | _, _ =>
    match (← valueOf r) with
    | .float x => pure (some x)
    | .int n => do pure (some (← floatOfInt n))
    | _ => pure none

/-- The double that a number stands for. -/
def realNumber (m : Machine) (r : Ref) : Eval Float := do
  match (← realNumber? m r) with
  | some x => pure x
  | none => typeError ("must be real number, not " ++ (← typeName r))

def floatOf (m : Machine) (r : Ref) : Eval Float := do
  match (← realNumber? m r) with
  | some x => pure x
  | none =>
    match (← valueOf r) with
    | .text t => floatOfPoints t.points (← m.repr r)
    | .bytes b => floatOfPoints (b.map UInt8.toNat) (← m.repr r)
    | _ => typeError ("float() argument must be a string or a real number, not '"
        ++ (← typeName r) ++ "'")

/-! Texts and bytes -/

/-- The bytes of a text in UTF-8; surrogates have none. -/
def utf8Bytes (t : Text) : Eval (List UInt8) := do
  match t.firstSurrogates with
  | none => pure (t.toStringLossy.toUTF8.data.toList)
  | some (start, count) =>
    let codec ← newString "utf-8"
    let object ← newText t
    let reason ← newString "surrogates not allowed"
    let first ← newInt start
    let last ← newInt (start + count)
    throw (← make (.exception .unicodeEncodeError)
      (.exception [codec, object, first, last, reason]
        (.encoding codec object start (start + count) reason)))

/-- The text that bytes in UTF-8 spell. -/
def utf8Text (b : List UInt8) : Eval Text := do
  match String.fromUTF8? (ByteArray.mk b.toArray) with
  | some s => pure (Text.ofString s)
  | none =>
    -- the longest readable start ends where the fault is
    let fault := ((List.range (b.length + 1)).reverse.find? fun n =>
      (String.fromUTF8? (ByteArray.mk (b.take n).toArray)).isSome).getD 0
    let codec ← newString "utf-8"
    let object ← newBytes b
    let reason ← newString "invalid start byte"
    let first ← newInt fault
    let last ← newInt (fault + 1)
    throw (← make (.exception .unicodeDecodeError)
      (.exception [codec, object, first, last, reason]
        (.encoding codec object fault (fault + 1) reason)))

/-- The plain name of an encoding. -/
def encodingName (t : Text) : String :=
  String.ofList (t.toStringLossy.toList.filterMap fun c =>
    if c == '-' || c == '_' || c == ' ' then none else some c.toLower)

/-- The bytes of a text in an encoding. -/
def encodeText (t encoding : Text) : Eval (List UInt8) := do
  let name := encodingName encoding
  if name == "utf8" || name == "u8" then utf8Bytes t
  else if name == "ascii" || name == "usascii" || name == "latin1" || name == "iso88591" then
    let bound := if name == "ascii" || name == "usascii" then 128 else 256
    match t.points.findIdx? fun c => bound ≤ c with
    | none => pure (t.points.map UInt8.ofNat)
    | some i =>
      let run := ((t.points.drop i).takeWhile fun c => bound ≤ c).length
      let codec ← newString (if bound = 128 then "ascii" else "latin-1")
      let object ← newText t
      let reason ← newString ("ordinal not in range(" ++ toString bound ++ ")")
      let first ← newInt i
      let last ← newInt (i + run)
      throw (← make (.exception .unicodeEncodeError)
        (.exception [codec, object, first, last, reason]
          (.encoding codec object i (i + run) reason)))
  else raise .lookupError (("unknown encoding: " : Text) ++ encoding)

/-- The text that bytes spell in an encoding. -/
def decodeBytes (b : List UInt8) (encoding : Text) : Eval Text := do
  let name := encodingName encoding
  if name == "utf8" || name == "u8" then utf8Text b
  else if name == "latin1" || name == "iso88591" then pure ⟨b.map UInt8.toNat⟩
  else if name == "ascii" || name == "usascii" then
    match b.findIdx? fun x => 128 ≤ x.toNat with
    | none => pure ⟨b.map UInt8.toNat⟩
    | some i =>
      let codec ← newString "ascii"
      let object ← newBytes b
      let reason ← newString "ordinal not in range(128)"
      let first ← newInt i
      let last ← newInt (i + 1)
      throw (← make (.exception .unicodeDecodeError)
        (.exception [codec, object, first, last, reason]
          (.encoding codec object i (i + 1) reason)))
  else raise .lookupError (("unknown encoding: " : Text) ++ encoding)

/-- The text that an argument has to be. -/
def textArgument (name : String) (what : String) (r : Ref) : Eval Text := do
  match (← valueOf r) with
  | .text t => pure t
  | _ => typeError (name ++ "() argument " ++ what ++ " must be str, not " ++ (← typeName r))

def byteOf (m : Machine) (what : String) (r : Ref) : Eval UInt8 := do
  let n ← index m r
  if n < 0 ∨ 255 < n then valueError (what ++ " must be in range(0, 256)")
  else pure (UInt8.ofNat n.toNat)

/-- The bytes that an object is converted to. -/
def bytesOf (m : Machine) (name : String) (source encoding : Option Ref) : Eval (List UInt8) := do
  match source with
  | none => pure []
  | some r =>
    match (← valueOf r), encoding with
    | .text t, some e => encodeText t (← textArgument name "'encoding'" e)
    | .text _, none => typeError "string argument without an encoding"
    | _, some e => do
      let _ ← textArgument name "'encoding'" e
      typeError "encoding without a string argument"
    | .bytes b, none => pure b
    | .int n, none =>
      if n < 0 then valueError "negative count"
      else if (bitBound : Int) < n then raise .memoryError Text.empty
      else pure (List.replicate n.toNat 0)
    | _, none =>
      if (← special r "__iter__").isSome || (← isSequence r) then
        (← iterate m r).mapM (byteOf m (if name == "bytes" then "bytes" else "byte"))
      else typeError ("cannot convert '" ++ (← typeName r) ++ "' object to " ++ name)

/-! Containers -/

/-- The pairs that a sequence of pairs holds. -/
def pairsOf (m : Machine) (r : Ref) : Eval (List (Ref × Ref)) := do
  let items ← iterate m r
  items.zipIdx.mapM fun (p : Ref × Nat) => do
    let iterable := (← special p.1 "__iter__").isSome || (← isSequence p.1)
    if !iterable then
      typeError ("cannot convert dictionary update sequence element #" ++ toString p.2
        ++ " to a sequence")
    else
      match (← iterate m p.1) with
      | [a, b] => pure (a, b)
      | other =>
        valueError ("dictionary update sequence element #" ++ toString p.2 ++ " has length "
          ++ toString other.length ++ "; 2 is required")

/-- The entries of a dictionary with those of a mapping, or of pairs, and of keywords. -/
def updatedEntries (m : Machine) (entries : List Entry) (source : Option Ref)
    (keywords : List (Text × Ref)) : Eval (List Entry) := do
  let pairs : List (Ref × Ref) ← match source with
    | none => pure []
    | some r =>
      match (← valueOf r) with
      | .dict more => pure (more.map fun e => (e.key, e.value))
      | _ =>
        match (← getAttr? m r "keys") with
        | some keys => do
          (← iterate m (← m.call keys [] [])).mapM fun k => do pure (k, ← getItem m r k)
        | none => pairsOf m r
  let named ← keywords.mapM fun (k : Text × Ref) => do pure (← newText k.1, k.2)
  (pairs ++ named).foldlM (fun acc p => withEntry m acc p.1 p.2) entries

/-- The iterator that runs backwards. -/
def reversedIterator (m : Machine) (r : Ref) : Eval Ref := do
  match (← special r "__reversed__") with
  | some (.member f) => callMember m f r []
  | _ =>
    match (← valueOf r) with
    | .list items => make (.iterator .reversedList) (.cursor (.backwards r items.length))
    | .text _ | .bytes _ | .tuple _ | .range .. =>
      make .reversed (.cursor (.backwards r (← length m r).toNat))
    | .dict entries => make (.iterator .dictKeys) (.cursor (.rest (entries.map (·.key)).reverse))
    | .set _ => typeError ("'" ++ (← typeName r) ++ "' object is not reversible")
    | _ =>
      if ← isSequence r then
        let n ← length m r
        let items ← (List.range n.toNat).mapM fun i => sequenceItemAt m r i
        make .reversed (.cursor (.rest items.reverse))
      else typeError ("'" ++ (← typeName r) ++ "' object is not reversible")

/-! Instances -/

/-- Makes the plain instance of a built-in class from arguments. -/
def constructBuiltin (m : Machine) (c : Builtin) (arguments : List Ref)
    (keywords : List (Text × Ref)) : Eval Ref := do
  match c with
  | .object =>
    if arguments.isEmpty && keywords.isEmpty then make .object .plain
    else typeError "object() takes no arguments"
  | .sample =>
    if arguments.isEmpty && keywords.isEmpty then make .sample .plain
    else typeError "Base() takes no arguments"
  | .none =>
    if arguments.isEmpty && keywords.isEmpty then pure Ref.none
    else typeError "NoneType takes no arguments"
  | .bool =>
    noKeywords "bool" keywords
    checkCount "bool" 0 1 arguments.length
    match arguments with
    | r :: _ => do newBool (← truth m r)
    | [] => newBool false
  | .int =>
    match (← fillNamed "int" ["x", "base"] arguments keywords) with
    | [x, base] =>
      if x.isNone || arguments.isEmpty then
        match keywords.find? fun k => k.1 == Text.ofString "x" with
        | some _ => typeError "'x' is an invalid keyword argument for int()"
        | none => do newInt (← intOf m x base)
      else do newInt (← intOf m x base)
    | _ => newInt 0
  | .float =>
    noKeywords "float" keywords
    checkCount "float" 0 1 arguments.length
    match arguments with
    | r :: _ => do newFloat (← floatOf m r)
    | [] => newFloat 0.0
  | .str =>
    match (← fillNamed "str" ["object", "encoding", "errors"] arguments keywords) with
    | [none, _, _] => newText Text.empty
    | [some r, none, none] =>
      -- a text of exactly the class is the text itself
      if (← memory).isExactly r .str then pure r else do newText (← m.str r)
    | some r :: encoding :: _ =>
      match (← valueOf r) with
      | .bytes b =>
        let name ← match encoding with
          | some e => textArgument "str" "'encoding'" e
          | none => pure (Text.ofString "utf-8")
        newText (← decodeBytes b name)
      | .text _ => typeError "decoding str is not supported"
      | _ =>
        typeError ("decoding to str: need a bytes-like object, " ++ (← typeName r) ++ " found")
    | _ => newText Text.empty
  | .bytes => do
    match (← fillNamed "bytes" ["source", "encoding", "errors"] arguments keywords) with
    | source :: encoding :: _ =>
      match source with
      | some r =>
        if (← memory).isExactly r .bytes && encoding.isNone then pure r
        else newBytes (← bytesOf m "bytes" source encoding)
      | none => newBytes []
    | _ => newBytes []
  | .bytearray => do
    match (← fillNamed "bytearray" ["source", "encoding", "errors"] arguments keywords) with
    | source :: encoding :: _ => make .bytearray (.bytes (← bytesOf m "bytearray" source encoding))
    | _ => make .bytearray (.bytes [])
  | .list =>
    noKeywords "list" keywords
    checkCount "list" 0 1 arguments.length
    match arguments with
    | r :: _ => do newList (← iterate m r)
    | [] => newList []
  | .tuple =>
    noKeywords "tuple" keywords
    checkCount "tuple" 0 1 arguments.length
    match arguments with
    | r :: _ => do if (← memory).isExactly r .tuple then pure r else newTuple (← iterate m r)
    | [] => newTuple []
  | .set =>
    noKeywords "set" keywords
    checkCount "set" 0 1 arguments.length
    match arguments with
    | r :: _ => do make .set (.set (← itemsFrom m (← iterate m r)))
    | [] => make .set (.set [])
  | .frozenset =>
    noKeywords "frozenset" keywords
    checkCount "frozenset" 0 1 arguments.length
    match arguments with
    | r :: _ => do
      if (← memory).isExactly r .frozenset then pure r
      else make .frozenset (.set (← itemsFrom m (← iterate m r)))
    | [] => make .frozenset (.set [])
  | .dict =>
    checkCount "dict" 0 1 arguments.length
    make .dict (.dict (← updatedEntries m [] arguments.head? keywords))
  | .range =>
    noKeywords "range" keywords
    checkCount "range" 1 3 arguments.length
    match (← arguments.mapM (index m)) with
    | [b] => make .range (.range 0 b 1)
    | [a, b] => make .range (.range a b 1)
    | a :: b :: c :: _ =>
      if c = 0 then valueError "range() arg 3 must not be zero" else make .range (.range a b c)
    | [] => make .range (.range 0 0 1)
  | .slice =>
    noKeywords "slice" keywords
    checkCount "slice" 1 3 arguments.length
    match arguments with
    | [b] => make .slice (.slice Ref.none b Ref.none)
    | [a, b] => make .slice (.slice a b Ref.none)
    | a :: b :: c :: _ => make .slice (.slice a b c)
    | [] => pure Ref.none
  | .enumerate =>
    match (← fillNamed "enumerate" ["iterable", "start"] arguments keywords) with
    | some r :: start :: _ => do
      let n ← match start with
        | some s => index m s
        | none => pure 0
      make .enumerate (.cursor (.enumerate n (← iterator m r)))
    | _ => typeError "enumerate() missing required argument 'iterable'"
  | .zip =>
    noKeywords "zip" (keywords.filter fun k => k.1 != Text.ofString "strict")
    make .zip (.cursor (.zip (← arguments.mapM (iterator m))))
  | .map =>
    noKeywords "map" keywords
    match arguments with
    | f :: first :: rest => do
      make .map (.cursor (.map f (← (first :: rest).mapM (iterator m))))
    | _ => typeError "map() must have at least two arguments."
  | .filter =>
    noKeywords "filter" keywords
    checkCount "filter" 2 2 arguments.length
    match arguments with
    | f :: r :: _ => do make .filter (.cursor (.filter f (← iterator m r)))
    | _ => pure Ref.none
  | .reversed =>
    noKeywords "reversed" keywords
    checkCount "reversed" 1 1 arguments.length
    reversedIterator m (arguments.headD Ref.none)
  | .property =>
    match (← fillNamed "property" ["fget", "fset", "fdel", "doc"] arguments keywords) with
    | getter :: _ => make .property (.property (getter.getD Ref.none))
    | [] => pure Ref.none
  | .exception e =>
    let named : List String := match e with
      | .importError | .moduleNotFoundError => ["name", "path"]
      | .attributeError => ["name", "obj"]
      | .nameError | .unboundLocalError => ["name"]
      | _ => []
    match keywords.find? fun k => !(named.any fun n => Text.ofString n == k.1) with
    | none => construct m (Ref.ofBuiltin c) arguments
    | some k =>
      if named.isEmpty then typeError (e.name ++ "() takes no keyword arguments")
      else
        raise .typeError (("'" : Text) ++ k.1 ++ ("' is an invalid keyword argument for "
          ++ e.name ++ "()"))
  | .module => do
    match arguments with
    | r :: _ => do make .module (.module (← textArgument "module" "'name'" r).toStringLossy)
    | [] => typeError "module() missing required argument 'name' (pos 1)"
  | .type =>
    match arguments with
    | [r] => do pure ((← memory).classOf r)
    | [name, bases, members] => do
      match (← valueOf name), (← valueOf bases), (← valueOf members) with
      | .text t, .tuple bases, .dict entries => do
        let members ← entries.filterMapM fun e => do
          match (← valueOf e.key) with
          | .text k => pure (some (k.toStringLossy, e.value))
          | _ => pure none
        makeClass t.toStringLossy bases members
      | .text _, .tuple _, _ =>
        typeError ("type.__new__() argument 3 must be dict, not " ++ (← typeName members))
      | .text _, _, _ =>
        typeError ("type.__new__() argument 2 must be tuple, not " ++ (← typeName bases))
      | _, _, _ => typeError ("type.__new__() argument 1 must be str, not " ++ (← typeName name))
    | _ => typeError "type() takes 1 or 3 arguments"
  | .function =>
    match keywords, arguments with
    | [], [] => typeError "function() missing required argument 'code' (pos 1)"
    | [], [_] => typeError "function() missing required argument 'globals' (pos 2)"
    | [], code :: _ =>
      typeError ("function() argument 'code' must be code, not " ++ (← typeName code))
    | k :: _, _ =>
      raise .typeError (("'" : Text) ++ k.1 ++ "' is an invalid keyword argument for function()")
  | c => typeError ("cannot create '" ++ c.name ++ "' instances")

/-- Makes an instance of a class of a program. -/
def constructMade (m : Machine) (cls : Ref) (arguments : List Ref) (keywords : List (Text × Ref)) :
    Eval Ref := do
  let memory ← memory
  let base := ((memory.lineage cls).findSome? fun c =>
    match c with
    | .static (.builtin b) => some b
    | _ => none).getD .object
  let initializer := match memory.find cls "__init__" with
    | some (.member f) => some f
    | _ => none
  let self ← match base with
    | .exception _ => construct m cls arguments
    | .object | .sample =>
      if initializer.isNone && !(arguments.isEmpty && keywords.isEmpty) then
        typeError (memory.className cls ++ "() takes no arguments")
      else alloc cls .plain (some [])
    | .type => typeError "metaclasses are not available"
    | b => do
      let plain ← if initializer.isSome && [Builtin.list, .dict, .set, .bytearray].contains b then
          constructBuiltin m b [] []
        else constructBuiltin m b arguments keywords
      alloc cls (← valueOf plain) (some [])
  match initializer with
  | none => pure self
  | some f => do
    let result ← m.call f (self :: arguments) keywords
    if result == Ref.none then pure self
    else typeError ("__init__() should return None, not '" ++ (← typeName result) ++ "'")

/-- Makes an instance of a class. -/
def instantiate (m : Machine) (cls : Ref) (arguments : List Ref) (keywords : List (Text × Ref)) :
    Eval Ref := do
  match (← memory).class? cls with
  | some (.builtin c) => constructBuiltin m c arguments keywords
  | some (.made _) => constructMade m cls arguments keywords
  | none => typeError ("'" ++ (← typeName cls) ++ "' object is not callable")

end Eval

end EmbeddedPython
