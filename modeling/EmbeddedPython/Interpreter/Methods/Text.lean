import EmbeddedPython.Interpreter.Construction

/-
  Methods of texts and byte strings

  Each method answers `none` for a name that it does not know. Searching,
  splitting and the like work on code points and on bytes alike.
-/

namespace EmbeddedPython

namespace Eval

/-! Arguments -/

/-- Checks that a method was given no arguments. -/
def noArguments (owner name : String) (arguments : List Ref) : Eval Unit := do
  if !arguments.isEmpty then
    typeError (owner ++ "." ++ name ++ "() takes no arguments (" ++ toString arguments.length
      ++ " given)")

/-- The one argument of a method. -/
def oneArgument (owner name : String) (arguments : List Ref) : Eval Ref := do
  match arguments with
  | [a] => pure a
  | _ =>
    typeError (owner ++ "." ++ name ++ "() takes exactly one argument ("
      ++ toString arguments.length ++ " given)")

/-- The bounds that optional arguments give of a sequence of `size` items. -/
def boundsOf (m : Machine) (arguments : List Ref) (size : Nat) : Eval (Nat × Nat) := do
  let bound := fun (r : Option Ref) (other : Nat) => do
    match r with
    | none => pure other
    | some r =>
      match (← sliceBound m r) with
      | none => pure other
      | some n => pure (clampBound size 0 size n).toNat
  let start ← bound arguments[0]? 0
  let stop ← bound arguments[1]? size
  pure (start, stop)

/-- How often something may be done; a negative count is no bound. -/
def limitOf (m : Machine) (r : Option Ref) (size : Nat) : Eval Nat := do
  match r with
  | none => pure (size + 1)
  | some r => do
    let n ← smallIndex m .overflowError r
    pure (if n < 0 then size + 1 else n.toNat)

/-! What the methods work on -/

/-- A kind of sequence of code points or bytes. -/
structure Letters where
  owner : Builtin
  /-- makes an object of code points -/
  make : List Nat → Eval Ref
  /-- the code points of an argument -/
  points : String → Ref → Eval (List Nat)

/-- Texts. -/
def textLetters : Letters where
  owner := .str
  make cs := newText ⟨cs⟩
  points name r := do
    match (← valueOf r) with
    | .text t => pure t.points
    | _ =>
      let found ← typeName r
      match name with
      | "join" => typeError ("sequence item 0: expected str instance, " ++ found ++ " found")
      | "replace" => typeError ("replace() argument 1 must be str, not " ++ found)
      | "split" | "rsplit" => typeError ("must be str or None, not " ++ found)
      | "strip" | "lstrip" | "rstrip" => typeError (name ++ " arg must be None or str")
      | "partition" | "rpartition" | "find" | "index" | "count" | "rfind" | "rindex" =>
        typeError ("must be str, not " ++ found)
      | name => typeError (name ++ "() argument must be str, not " ++ found)

/-- Byte strings, mutable ones if `mutable`. -/
def byteLetters (mutable : Bool) : Letters where
  owner := if mutable then .bytearray else .bytes
  make cs :=
    if mutable then Eval.make .bytearray (.bytes (cs.map UInt8.ofNat))
    else newBytes (cs.map UInt8.ofNat)
  points _ r := do
    match (← valueOf r) with
    | .bytes b => pure (b.map UInt8.toNat)
    | .int n =>
      if 0 ≤ n ∧ n < 256 then pure [n.toNat] else valueError "byte must be in range(0, 256)"
    | _ => typeError ("a bytes-like object is required, not '" ++ (← typeName r) ++ "'")

/-- Whether all code points satisfy a test, and there are any. -/
def allPoints (test : Nat → Bool) (cs : List Nat) : Bool := !cs.isEmpty && cs.all test

/-- A test of the letters of a sequence. -/
def lettersTest (name : String) (cs : List Nat) : Option Bool :=
  let isCased := fun c => Text.isLower c || Text.isUpper c
  match name with
  | "isdigit" | "isdecimal" | "isnumeric" => some (allPoints Text.isDigit cs)
  | "isalpha" => some (allPoints Text.isLetter cs)
  | "isalnum" => some (allPoints (fun c => Text.isLetter c || Text.isDigit c) cs)
  | "isspace" => some (allPoints Text.isBlank cs)
  | "isupper" => some (cs.any isCased && !cs.any Text.isLower)
  | "islower" => some (cs.any isCased && !cs.any Text.isUpper)
  | "istitle" => some (cs.any isCased && Text.titleFrom false cs == cs)
  | "isascii" => some (cs.all fun c => c < 128)
  | "isprintable" => some (cs.all Text.isPrintable)
  | "isidentifier" =>
    some (match cs with
      | [] => false
      | c :: _ => !Text.isDigit c
        && cs.all fun c => Text.isLetter c || Text.isDigit c || c == 0x5F)
  | _ => none

/-- A change of the letters of a sequence. -/
def lettersChange (name : String) (cs : List Nat) : Option (List Nat) :=
  match name with
  | "upper" => some (cs.flatMap Text.upperPoint)
  | "lower" | "casefold" => some (cs.flatMap Text.lowerPoint)
  | "title" => some (Text.titleFrom false cs)
  | "capitalize" =>
    some (match cs with
      | [] => []
      | c :: rest => Text.upperPoint c ++ rest.flatMap Text.lowerPoint)
  | "swapcase" =>
    some (cs.flatMap fun c => if Text.isLower c then Text.upperPoint c else Text.lowerPoint c)
  | _ => none

/-- The places of a field of a width around a sequence. -/
def padded (name : String) (width : Int) (fill : Nat) (cs : List Nat) : List Nat :=
  let missing := (width - cs.length).toNat
  match name with
  | "ljust" => cs ++ List.replicate missing fill
  | "rjust" => List.replicate missing fill ++ cs
  | _ =>
    let left := missing / 2 + (if missing % 2 = 1 && width.toNat % 2 = 1 then 1 else 0)
    List.replicate left fill ++ cs ++ List.replicate (missing - left) fill

/-- The splits of a sequence from its end. -/
def splitFromEnd (separator : Option (List Nat)) (limit : Nat) (cs : List Nat) :
    List (List Nat) :=
  let back := match separator with
    | some s => Text.splitOn s.reverse limit cs.reverse
    | none => Text.splitBlank limit cs.reverse
  (back.map List.reverse).reverse

/-- The methods that find parts. -/
def lettersSearch (m : Machine) (k : Letters) (name : String) (cs : List Nat)
    (arguments : List Ref) : Eval Ref := do
  match arguments with
  | [] => typeError (name ++ "() takes at least 1 argument (0 given)")
  | part :: rest =>
    if 2 < rest.length then
      typeError (name ++ "() takes at most 3 arguments (" ++ toString arguments.length ++ " given)")
    let (start, stop) ← boundsOf m rest cs.length
    let inside := (cs.take stop).drop start
    if name == "startswith" || name == "endswith" then
      let fits := fun (p : List Nat) =>
        if name == "startswith" then p.isPrefixOf inside else p.isSuffixOf inside
      match (← valueOf part) with
      | .tuple parts => do newBool ((← parts.mapM (k.points name)).any fits)
      | .text t => if k.owner = .str then newBool (fits t.points) else do
          newBool (fits (← k.points name part))
      | .bytes b =>
        if k.owner = .str then
          typeError (name ++ " first arg must be str or a tuple of str, not " ++ (← typeName part))
        else newBool (fits (b.map UInt8.toNat))
      | _ =>
        typeError (name ++ " first arg must be " ++ (if k.owner = .str then "str" else "bytes")
          ++ " or a tuple of " ++ (if k.owner = .str then "str" else "bytes") ++ ", not "
          ++ (← typeName part))
    else
      let p ← k.points name part
      if name == "count" then newInt (Text.countPart p inside)
      else
        let found := if stop < start then none
          else if name == "rfind" || name == "rindex" then Text.findLast? p inside
          else Text.find? p inside
        match found with
        | some i => newInt (start + i)
        | none =>
          if name == "find" || name == "rfind" then newInt (-1)
          else if k.owner = .str then valueError "substring not found"
          else valueError "subsection not found"

/-- The methods that take a sequence apart. -/
def lettersSplit (m : Machine) (k : Letters) (name : String) (cs : List Nat)
    (arguments : List Ref) (keywords : List (Text × Ref)) : Eval Ref := do
  match (← fillNamed name ["sep", "maxsplit"] arguments keywords) with
  | separator :: limit :: _ =>
    let limit ← limitOf m limit cs.length
    let separator ← match separator with
      | none | some (.static .none) => pure none
      | some r => do pure (some (← k.points name r))
    if separator == some [] then valueError "empty separator"
    let pieces := if name == "rsplit" then splitFromEnd separator limit cs
      else match separator with
        | some s => Text.splitOn s limit cs
        | none => Text.splitBlank limit cs
    newList (← pieces.mapM k.make)
  | _ => newList []

/-- The items of a join, which all have to be of one kind. -/
def joined (k : Letters) (separator : List Nat) (items : List Ref) : Eval Ref := do
  let parts ← items.zipIdx.mapM fun (p : Ref × Nat) => do
    match (← valueOf p.1), k.owner with
    | .text t, .str => pure t.points
    | .bytes b, .bytes | .bytes b, .bytearray => pure (b.map UInt8.toNat)
    | _, .str =>
      typeError ("sequence item " ++ toString p.2 ++ ": expected str instance, "
        ++ (← typeName p.1) ++ " found")
    | _, _ =>
      typeError ("sequence item " ++ toString p.2 ++ ": expected a bytes-like object, "
        ++ (← typeName p.1) ++ " found")
  k.make (List.intercalate separator parts)

/-- A method of a sequence of code points or bytes. -/
def lettersMethod (m : Machine) (k : Letters) (name : String) (cs : List Nat)
    (arguments : List Ref) (keywords : List (Text × Ref)) : Eval (Option Ref) := do
  let owner := k.owner.name
  let answer := fun (body : Eval Ref) => do pure (some (← body))
  match lettersTest name cs, lettersChange name cs with
  | some b, _ => do
    noArguments owner name arguments
    answer (newBool b)
  | none, some changed => do
    noArguments owner name arguments
    answer (k.make changed)
  | none, none =>
    match name with
    | "find" | "rfind" | "index" | "rindex" | "count" | "startswith" | "endswith" =>
      answer (lettersSearch m k name cs arguments)
    | "split" | "rsplit" => answer (lettersSplit m k name cs arguments keywords)
    | "splitlines" => do
      match (← fillNamed name ["keepends"] arguments keywords) with
      | keep :: _ => do
        let keep ← match keep with
          | some r => truth m r
          | none => pure false
        answer (do newList (← (Text.splitLines keep cs).mapM k.make))
      | [] => pure none
    | "join" => do
      let r ← oneArgument owner name arguments
      let iterable := (← special r "__iter__").isSome || (← isSequence r)
      if !iterable then typeError "can only join an iterable"
      else answer (do joined k cs (← iterate m r))
    | "replace" => do
      checkCount name 2 3 arguments.length
      match arguments with
      | old :: new :: rest =>
        let old ← k.points name old
        let new ← match (← valueOf new), k.owner with
          | .text t, .str => pure t.points
          | _, .str => typeError ("replace() argument 2 must be str, not " ++ (← typeName new))
          | _, _ => k.points name new
        let limit ← limitOf m rest.head? (cs.length + 1)
        answer (k.make (Text.replacePart old new limit cs))
      | _ => pure none
    | "strip" | "lstrip" | "rstrip" => do
      checkCount name 0 1 arguments.length
      let drop : Nat → Bool ← match arguments with
        | [] | [.static .none] => pure Text.isBlank
        | r :: _ => do
          let set ← k.points name r
          pure fun c => set.contains c
      let cs := if name == "rstrip" then cs else Text.stripLeft drop cs
      let cs := if name == "lstrip" then cs else Text.stripRight drop cs
      answer (k.make cs)
    | "removeprefix" => do
      let p ← k.points name (← oneArgument owner name arguments)
      answer (k.make (if p.isPrefixOf cs then cs.drop p.length else cs))
    | "removesuffix" => do
      let p ← k.points name (← oneArgument owner name arguments)
      answer (k.make (if !p.isEmpty && p.isSuffixOf cs then cs.take (cs.length - p.length) else cs))
    | "partition" | "rpartition" => do
      let p ← k.points name (← oneArgument owner name arguments)
      if p.isEmpty then valueError "empty separator"
      else
        let found := if name == "partition" then Text.find? p cs else Text.findLast? p cs
        let parts := match found with
          | some i => [cs.take i, p, cs.drop (i + p.length)]
          | none => if name == "partition" then [cs, [], []] else [[], [], cs]
        answer (do newTuple (← parts.mapM k.make))
    | "center" | "ljust" | "rjust" => do
      checkCount name 1 2 arguments.length
      match arguments with
      | width :: rest =>
        let width ← smallIndex m .overflowError width
        let fill ← match rest with
          | [] => pure 0x20
          | r :: _ => do
            match (← k.points name r) with
            | [c] => pure c
            | _ => typeError "The fill character must be exactly one character long"
        answer (k.make (padded name width fill cs))
      | [] => pure none
    | "zfill" => do
      let width ← smallIndex m .overflowError (← oneArgument owner name arguments)
      let missing := (width - cs.length).toNat
      answer (k.make (match cs with
        | c :: rest =>
          if c == 0x2B || c == 0x2D then c :: List.replicate missing 0x30 ++ rest
          else List.replicate missing 0x30 ++ cs
        | [] => List.replicate missing 0x30))
    | "expandtabs" => do
      let size ← match (← fillNamed name ["tabsize"] arguments keywords) with
        | some r :: _ => smallIndex m .overflowError r
        | _ => pure 8
      let step := fun (acc : List Nat × Nat) (c : Nat) =>
        if c == 9 then
          let n := if size ≤ 0 then 0 else size.toNat - acc.2 % size.toNat
          (acc.1 ++ List.replicate n 0x20, acc.2 + n)
        else (acc.1 ++ [c], if c == 10 || c == 13 then 0 else acc.2 + 1)
      answer (k.make (cs.foldl step ([], 0)).1)
    | _ => pure none

/-- A method of a text. -/
def textMethod (m : Machine) (name : String) (t : Text) (arguments : List Ref)
    (keywords : List (Text × Ref)) : Eval (Option Ref) := do
  match name with
  | "format" => do pure (some (← newText (← formatBraces m t arguments keywords)))
  | "encode" => do
    match (← fillNamed name ["encoding", "errors"] arguments keywords) with
    | encoding :: _ => do
      let e ← match encoding with
        | some r => textArgument "encode" "'encoding'" r
        | none => pure (Text.ofString "utf-8")
      pure (some (← newBytes (← encodeText t e)))
    | [] => pure none
  | _ => lettersMethod m textLetters name t.points arguments keywords

/-- The two hexadecimal digits of each byte. -/
def hexOfBytes (b : List UInt8) : String := String.join (b.map fun x => Text.hexField 2 x.toNat)

/-- A method of a byte string. -/
def bytesMethod (m : Machine) (mutable : Bool) (self : Ref) (name : String) (b : List UInt8)
    (arguments : List Ref) (keywords : List (Text × Ref)) : Eval (Option Ref) := do
  let k := byteLetters mutable
  let owner := k.owner.name
  let done := fun (b : List UInt8) => do
    setValue self (.bytes b)
    pure (some Ref.none)
  match name with
  | "decode" => do
    match (← fillNamed name ["encoding", "errors"] arguments keywords) with
    | encoding :: _ => do
      let e ← match encoding with
        | some r => textArgument "decode" "'encoding'" r
        | none => pure (Text.ofString "utf-8")
      pure (some (← newText (← decodeBytes b e)))
    | [] => pure none
  | "hex" => do pure (some (← newString (hexOfBytes b)))
  | "append" => do
    let x ← byteOf m "byte" (← oneArgument owner name arguments)
    done (b ++ [x])
  | "extend" => do
    let more ← bytesOf m "bytearray" (some (← oneArgument owner name arguments)) none
    done (b ++ more)
  | "clear" => if mutable then done [] else pure none
  | "reverse" => if mutable then done b.reverse else pure none
  | "copy" => do pure (some (← make .bytearray (.bytes b)))
  | "pop" => do
    match b.getLast? with
    | some x => do
      setValue self (.bytes b.dropLast)
      pure (some (← newInt x.toNat))
    | none => raise .indexError "pop from empty bytearray"
  | _ => lettersMethod m k name (b.map UInt8.toNat) arguments keywords

end Eval

end EmbeddedPython
