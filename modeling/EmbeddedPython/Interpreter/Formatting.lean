import EmbeddedPython.Interpreter.Subscript

/-
  Formatting

  A value is put into a field of a text by a specification: fill and alignment,
  sign, width, grouping, precision and kind. Templates name the values for
  their fields by percent signs or by braces.
-/

namespace EmbeddedPython

/-- A specification of the form of a value. -/
structure FormatSpec where
  fill : Nat
  align : Option Char
  sign : Char
  alternate : Bool
  zero : Bool
  width : Nat
  grouping : Option Char
  precision : Option Nat
  kind : Option Char
  deriving Inhabited

namespace FormatSpec

def default : FormatSpec := ⟨0x20, none, '-', false, false, 0, none, none, none⟩

def isAlign (c : Nat) : Bool := c == 0x3C || c == 0x3E || c == 0x3D || c == 0x5E

/-- The number at the front of a list of code points. -/
def number (cs : List Nat) : Option Nat × List Nat :=
  let digits := cs.takeWhile fun c => 0x30 ≤ c && c ≤ 0x39
  if digits.isEmpty then (none, cs)
  else (some (digits.foldl (fun n c => n * 10 + (c - 0x30)) 0), cs.drop digits.length)

/-- Reads a specification; `none` if it is none. -/
def ofPoints (cs : List Nat) : Option FormatSpec :=
  let s := default
  let (s, cs) := match cs with
    | f :: a :: rest =>
      if isAlign a then ({ s with fill := f, align := some (Char.ofNat a) }, rest)
      else if isAlign f then ({ s with align := some (Char.ofNat f) }, a :: rest)
      else (s, cs)
    | [f] => if isAlign f then ({ s with align := some (Char.ofNat f) }, []) else (s, cs)
    | [] => (s, cs)
  let (s, cs) := match cs with
    | c :: rest =>
      if c == 0x2B || c == 0x2D || c == 0x20 then ({ s with sign := Char.ofNat c }, rest)
      else (s, cs)
    | [] => (s, cs)
  let (s, cs) := match cs with
    | 0x23 :: rest => ({ s with alternate := true }, rest)
    | _ => (s, cs)
  let (s, cs) := match cs with
    | 0x30 :: rest =>
      ({ s with zero := true, fill := if s.align.isNone then 0x30 else s.fill }, rest)
    | _ => (s, cs)
  let (width, cs) := number cs
  let s := { s with width := width.getD 0 }
  let (s, cs) := match cs with
    | c :: rest =>
      if c == 0x2C || c == 0x5F then ({ s with grouping := some (Char.ofNat c) }, rest) else (s, cs)
    | [] => (s, cs)
  let precise? := match cs with
    | 0x2E :: rest =>
      match number rest with
      | (some n, rest) => some ({ s with precision := some n }, rest)
      | (none, _) => none
    | _ => some (s, cs)
  match precise? with
  | none => none
  | some (s, []) => some s
  | some (s, [c]) => some { s with kind := some (Char.ofNat c) }
  | some _ => none

/-- A text in a field. -/
def pad (s : FormatSpec) (align : Char) (t : Text) : Text :=
  let missing := s.width - t.length
  let fill := fun n => List.replicate n s.fill
  match s.align.getD align with
  | '<' => ⟨t.points ++ fill missing⟩
  | '^' => ⟨fill (missing / 2) ++ t.points ++ fill (missing - missing / 2)⟩
  | _ => ⟨fill missing ++ t.points⟩

/-- Digits in groups of a size. -/
def grouped (size : Nat) (separator : Char) (digits : String) : String :=
  let cs := digits.toList
  let n := cs.length
  String.ofList (cs.zipIdx.flatMap fun p =>
    if 0 < p.2 && (n - p.2) % size = 0 then [separator, p.1] else [p.1])

/-- A number in a field: its sign and prefix before the fill if the zeros are to be inside. -/
def padNumber (s : FormatSpec) (negative : Bool) (start digits : String) : Text :=
  let sign := if negative then "-" else if s.sign == '-' then "" else s.sign.toString
  let inside := s.align == some '=' || (s.zero && s.align.isNone)
  if inside then
    let missing := s.width - (sign.length + start.length + digits.length)
    Text.ofString (sign ++ start) ++ ⟨List.replicate missing s.fill⟩ ++ Text.ofString digits
  else s.pad '>' (Text.ofString (sign ++ start ++ digits))

/-! Doubles with a number of places -/

/-- A quotient rounded to the nearest, a tie to the even one. -/
def roundedQuotient (num den : Nat) : Nat :=
  let q := num / den
  let rest := num % den
  if den < 2 * rest ∨ (2 * rest = den ∧ q % 2 = 1) then q + 1 else q

/-- The digits of a ratio with a number of places. -/
def fixed (num den places : Nat) : String :=
  let n := roundedQuotient (num * Nat.pow 10 places) den
  let digits := toString n
  let digits := Binary64.zeros (places + 1 - digits.length) ++ digits
  let whole := (digits.take (digits.length - places)).toString
  if places = 0 then whole else whole ++ "." ++ (digits.drop (digits.length - places)).toString

/-- The `places + 1` leading digits of a ratio, and the power of ten of the first. -/
def leading (num den places : Nat) : String × Int :=
  if num = 0 then (Binary64.zeros (places + 1), 0)
  else
    let power := Binary64.decimalPoint num den - 1
    let shift : Int := places - power
    let n := if 0 ≤ shift then roundedQuotient (num * Nat.pow 10 shift.toNat) den
      else roundedQuotient num (den * Nat.pow 10 (-shift).toNat)
    let digits := toString n
    if places + 1 < digits.length then ((digits.take (places + 1)).toString, power + 1)
    else (digits, power)

def exponentText (power : Int) : String :=
  let size := toString power.natAbs
  "e" ++ (if power < 0 then "-" else "+") ++ (if size.length < 2 then "0" else "") ++ size

def scientific (num den places : Nat) : String :=
  let (digits, power) := leading num den places
  let rest := (digits.drop 1).toString
  (digits.take 1).toString ++ (if rest.isEmpty then "" else "." ++ rest) ++ exponentText power

def withoutZeros (s : String) : String :=
  if s.contains '.' then
    String.ofList ((s.toList.reverse.dropWhile (· == '0')).dropWhile (· == '.')).reverse
  else s

/-- The form with a number of significant digits. -/
def general (num den digits : Nat) (keepZeros : Bool) : String :=
  let digits := max digits 1
  let (shown, power) := leading num den (digits - 1)
  let trim := fun s => if keepZeros then s else withoutZeros s
  if -4 ≤ power ∧ power < (digits : Int) then
    trim (fixed num den (digits - 1 - power).toNat)
  else
    let rest := (shown.drop 1).toString
    trim ((shown.take 1).toString ++ (if rest.isEmpty then "" else "." ++ rest))
      ++ exponentText power

/-- The digits of a double for a kind of form. -/
def floatDigits (s : FormatSpec) (x : Float) : String :=
  match Binary64.toRatio? x with
  | none => if x == x then "inf" else "nan"
  | some (_, num, den) =>
    let places := s.precision.getD 6
    match s.kind with
    | some 'f' | some 'F' => fixed num den places
    | some 'e' | some 'E' => scientific num den places
    | some '%' => fixed (num * 100) den places ++ "%"
    | some 'g' | some 'G' | some 'n' => general num den places s.alternate
    | _ =>
      match s.precision with
      | none => Binary64.literal (if x < 0.0 then -x else Float.abs x)
      | some p =>
        let t := general num den p false
        if t.contains '.' || t.contains 'e' then t else t ++ ".0"

def floatText (s : FormatSpec) (x : Float) : Text :=
  let negative := (Binary64.parts x).1 && x == x
  let digits := s.floatDigits x
  let digits := match s.grouping with
    | none => digits
    | some c =>
      let whole := digits.takeWhile Char.isDigit
      grouped 3 c whole.toString ++ (digits.drop whole.toString.length).toString
  let digits := if s.kind == some 'E' || s.kind == some 'G' || s.kind == some 'F'
    then digits.toUpper else digits
  s.padNumber negative "" digits

/-- The form of an integer in one of the kinds for integers. -/
def intText (s : FormatSpec) (n : Int) : Text :=
  let (start, digits, size) := match s.kind with
    | some 'b' => ("0b", Text.numeral 2 n.natAbs, 4)
    | some 'o' => ("0o", Text.numeral 8 n.natAbs, 4)
    | some 'x' => ("0x", Text.numeral 16 n.natAbs, 4)
    | some 'X' => ("0X", (Text.numeral 16 n.natAbs).toUpper, 4)
    | _ => ("", toString n.natAbs, 3)
  let digits := match s.grouping with
    | none => digits
    | some c => grouped size c digits
  s.padNumber (n < 0) (if s.alternate then start else "") digits

end FormatSpec

namespace Eval

/-- The form of an object by a specification, for the native classes. -/
def formatNative (m : Machine) (r : Ref) (specification : Text) : Eval Text := do
  let found ← typeName r
  let unknown := fun (c : Char) => valueError (α := Text)
    ("Unknown format code '" ++ (if 32 < c.toNat && c.toNat < 128 then c.toString
      else "\\x" ++ Text.numeral 16 c.toNat) ++ "' for object of type '" ++ found ++ "'")
  if specification.points.isEmpty then m.str r
  else
    match (← valueOf r), FormatSpec.ofPoints specification.points with
    | .int _, none | .float _, none | .text _, none => valueError ("Invalid format specifier")
    | .int n, some s =>
      match s.kind with
      | none | some 'd' | some 'n' | some 'b' | some 'o' | some 'x' | some 'X' =>
        if s.precision.isSome then valueError "Precision not allowed in integer format specifier"
        else pure (s.intText n)
      | some 'c' => pure (s.pad '<' ⟨[n.toNat]⟩)
      | some 'e' | some 'E' | some 'f' | some 'F' | some 'g' | some 'G' | some '%' => do
        match Binary64.ofInt? n with
        | some x => pure (s.floatText x)
        | none => raise .overflowError "int too large to convert to float"
      | some c => unknown c
    | .float x, some s =>
      match s.kind with
      | none | some 'e' | some 'E' | some 'f' | some 'F' | some 'g' | some 'G' | some 'n'
      | some '%' => pure (s.floatText x)
      | some c => unknown c
    | .text t, some s =>
      match s.kind with
      | none | some 's' =>
        if s.align == some '=' then
          valueError "'=' alignment not allowed in string format specifier"
        else if s.sign != '-' then valueError "Sign not allowed in string format specifier"
        else
          let cut : Text := match s.precision with
            | some p => ⟨t.points.take p⟩
            | none => t
          pure ((if s.zero then { s with align := s.align.orElse fun _ => some '<' } else s).pad
            '<' cut)
      | some c => unknown c
    | _, _ =>
      typeError ("unsupported format string passed to " ++ found ++ ".__format__")

/-- The form of an object by a specification. -/
def formatObject (m : Machine) (r : Ref) (specification : Text) : Eval Text := do
  match (← special r "__format__") with
  | some (.member f) =>
    let result ← callMember m f r [← newText specification]
    match (← valueOf result) with
    | .text t => pure t
    | _ => typeError ("__format__ must return a str, not " ++ (← typeName result))
  | _ => formatNative m r specification

/-- The form in which only plain characters are left. -/
def asciiOf (t : Text) : Text :=
  ⟨t.points.flatMap fun c => if c < 128 then [c] else Text.codes (escapedPoint c)⟩

/-- A value converted as a field asks. -/
def converted (m : Machine) (conversion : Char) (r : Ref) : Eval Ref := do
  match conversion with
  | 'r' => do newText (← m.repr r)
  | 's' => do newText (← m.str r)
  | 'a' => do newText (asciiOf (← m.repr r))
  | _ => pure r

/-! Templates with percent signs -/

/-- The values that a template takes from, and the mapping behind them. -/
structure Supply where
  rest : List Ref
  mapping : Option Ref

def nextValue (s : Supply) : Eval (Ref × Supply) :=
  match s.rest with
  | [] => typeError "not enough arguments for format string"
  | r :: rest => pure (r, { s with rest := rest })

/-- A field of a template with percent signs, after its sign. -/
structure PercentField where
  key : Option (List Nat)
  flags : List Nat
  width : Nat
  precision : Option Nat
  kind : Nat
  rest : List Nat

def percentField (cs : List Nat) : Option PercentField :=
  let (key, cs) := match cs with
    | 0x28 :: rest =>
      let name := rest.takeWhile (· != 0x29)
      (some name, rest.drop (name.length + 1))
    | _ => (none, cs)
  let flags := cs.takeWhile fun c => [0x23, 0x30, 0x2D, 0x20, 0x2B].contains c
  let (width, cs) := FormatSpec.number (cs.drop flags.length)
  let (precision, cs) := match cs with
    | 0x2E :: rest =>
      let (n, rest) := FormatSpec.number rest
      (some (n.getD 0), rest)
    | _ => (none, cs)
  let cs := cs.dropWhile fun c => c == 0x68 || c == 0x6C || c == 0x4C
  match cs with
  | [] => none
  | kind :: rest => some ⟨key, flags, width.getD 0, precision, kind, rest⟩

/-- The integer for a field that wants one. -/
def percentInt (m : Machine) (kind : String) (r : Ref) : Eval Int := do
  match (← valueOf r) with
  | .int n => pure n
  | .float x =>
    if kind == "d" || kind == "i" || kind == "u" then
      match Binary64.toRatio? x with
      | some (negative, num, den) =>
        let n : Int := (num / den : Nat)
        pure (if negative then -n else n)
      | none => raise .overflowError "cannot convert float infinity to integer"
    else typeError ("%" ++ kind ++ " format: an integer is required, not float")
  | _ =>
    if (← special r "__index__").isSome then index m r
    else typeError ("%" ++ kind ++ " format: "
      ++ (if kind == "d" || kind == "i" || kind == "u" then "a real number" else "an integer")
      ++ " is required, not " ++ (← typeName r))

/-- The text of a value in a field with a percent sign. -/
def percentText (m : Machine) (f : PercentField) (position : Nat) (r : Ref) : Eval Text := do
  let has := fun (c : Nat) => f.flags.contains c
  let base : FormatSpec := { FormatSpec.default with
    align := if has 0x2D then some '<' else none
    sign := if has 0x2B then '+' else if has 0x20 then ' ' else '-'
    alternate := has 0x23
    zero := has 0x30 && !has 0x2D
    fill := if has 0x30 && !has 0x2D then 0x30 else 0x20
    width := f.width
    precision := f.precision }
  let kind := (Char.ofNat f.kind).toString
  let asText := fun (t : Text) =>
    let cut : Text := match f.precision with
      | some p => ⟨t.points.take p⟩
      | none => t
    ({ base with fill := 0x20, zero := false }).pad '>' cut
  if kind == "s" then do pure (asText (← m.str r))
  else if kind == "r" then do pure (asText (← m.repr r))
  else if kind == "a" then do pure (asText (asciiOf (← m.repr r)))
  else if ["d", "i", "u", "x", "X", "o"].contains kind then do
    let n ← percentInt m kind r
    pure (({ base with kind := kind.toList.head?, precision := none }).intText n)
  else if ["e", "E", "f", "F", "g", "G"].contains kind then do
    let x ← match (← valueOf r) with
      | .float x => pure x
      | .int n =>
        match Binary64.ofInt? n with
        | some x => pure x
        | none => raise .overflowError "int too large to convert to float"
      | _ => typeError ("must be real number, not " ++ (← typeName r))
    pure (({ base with kind := kind.toList.head? }).floatText x)
  else if kind == "c" then
    match (← valueOf r) with
    | .int n => pure (asText ⟨[n.toNat]⟩)
    | .text t =>
      if t.length = 1 then pure (asText t) else typeError "%c requires int or char"
    | _ => typeError "%c requires int or char"
  else
    valueError ("unsupported format character '" ++ kind ++ "' (0x" ++ Text.numeral 16 f.kind
      ++ ") at index " ++ toString position)

/-- Fills in a template with percent signs. -/
def percentFrom (m : Machine) (size : Nat) : Nat → List Nat → Supply → Eval Text
  | 0, _, _ => pure Text.empty
  | fuel + 1, cs, supply => do
    let before := cs.takeWhile (· != 0x25)
    match cs.drop before.length with
    | [] =>
      if supply.mapping.isNone && !supply.rest.isEmpty then
        typeError "not all arguments converted during string formatting"
      else pure ⟨before⟩
    | _ :: rest =>
      match percentField rest with
      | none => valueError "incomplete format"
      | some f =>
        if f.kind = 0x25 then
          pure ((⟨before ++ [0x25]⟩ : Text) ++ (← percentFrom m size fuel f.rest supply))
        else
          let (r, supply) ← match f.key with
            | none => nextValue supply
            | some key =>
              match supply.mapping with
              | none => typeError "format requires a mapping"
              | some d => do pure (← getItem m d (← newText ⟨key⟩), { supply with rest := [] })
          let shown ← percentText m f (size - f.rest.length - 1) r
          pure ((⟨before⟩ : Text) ++ shown ++ (← percentFrom m size fuel f.rest supply))

/-- Fills in a template with percent signs from a tuple, a mapping or one value. -/
def formatPercent (m : Machine) (template : Text) (values : Ref) : Eval Text := do
  let supply : Supply ← match (← valueOf values) with
    | .tuple items => pure ⟨items, none⟩
    | .dict _ => pure ⟨[values], some values⟩
    | .list _ => pure ⟨[values], some values⟩
    | _ => pure ⟨[values], none⟩
  percentFrom m template.length (template.length + 1) template.points supply

/-! Templates with braces -/

/-- Follows the attributes and items that a field names. -/
def followField (m : Machine) : Nat → List Nat → Ref → Eval Ref
  | 0, _, r => pure r
  | fuel + 1, cs, r => do
    match cs with
    | 0x2E :: rest =>
      let name := rest.takeWhile fun c => c != 0x2E && c != 0x5B
      followField m fuel (rest.drop name.length) (← getAttr m r (Text.toStringLossy ⟨name⟩))
    | 0x5B :: rest =>
      let key := rest.takeWhile (· != 0x5D)
      let keyRef ← match FormatSpec.number key with
        | (some n, []) => newInt n
        | _ => newText ⟨key⟩
      followField m fuel (rest.drop (key.length + 1)) (← getItem m r keyRef)
    | _ => pure r

/-- The value that a field names, and the number for the next field without a name. -/
def braceValue (m : Machine) (name : List Nat) (arguments : List Ref)
    (keywords : List (Text × Ref)) (next : Nat) : Eval (Ref × Nat) := do
  let first := name.takeWhile fun c => c != 0x2E && c != 0x5B
  let rest := name.drop first.length
  let (r, next) ← match FormatSpec.number first with
    | (some n, []) =>
      match arguments[n]? with
      | some r => pure (r, next)
      | none =>
        raise .indexError ("Replacement index " ++ toString n
          ++ " out of range for positional args tuple")
    | _ =>
      if first.isEmpty then
        match arguments[next]? with
        | some r => pure (r, next + 1)
        | none =>
          raise .indexError ("Replacement index " ++ toString next
            ++ " out of range for positional args tuple")
      else
        match keywords.find? fun k => k.1.points == first with
        | some k => pure (k.2, next)
        | none => do keyError (← newText ⟨first⟩)
  pure (← followField m (rest.length + 1) rest r, next)

/-- What stands before the brace that closes a field. -/
def braceField : Nat → List Nat → List Nat → Option (List Nat × List Nat)
  | _, _, [] => none
  | depth, acc, c :: rest =>
    if c == 0x7D then
      if depth = 0 then some (acc.reverse, rest) else braceField (depth - 1) (c :: acc) rest
    else if c == 0x7B then braceField (depth + 1) (c :: acc) rest
    else braceField depth (c :: acc) rest

/-- Fills in a template with braces. -/
def braceFrom (m : Machine) (arguments : List Ref) (keywords : List (Text × Ref)) :
    Nat → List Nat → Nat → Eval Text
  | 0, _, _ => pure Text.empty
  | fuel + 1, cs, next => do
    match cs with
    | [] => pure Text.empty
    | 0x7B :: 0x7B :: rest => do
      pure ((⟨[0x7B]⟩ : Text) ++ (← braceFrom m arguments keywords fuel rest next))
    | 0x7D :: 0x7D :: rest => do
      pure ((⟨[0x7D]⟩ : Text) ++ (← braceFrom m arguments keywords fuel rest next))
    | 0x7D :: _ => valueError "Single '\x7d' encountered in format string"
    | 0x7B :: rest =>
      match braceField 0 [] rest with
      | none =>
        if rest.isEmpty then valueError "Single '\x7b' encountered in format string"
        else valueError "expected '\x7d' before end of string"
      | some (field, rest) =>
        let name := field.takeWhile fun c => c != 0x21 && c != 0x3A
        let after := field.drop name.length
        let (conversion, after) := match after with
          | 0x21 :: c :: more => (Char.ofNat c, more)
          | _ => (' ', after)
        let (r, next) ← braceValue m name arguments keywords next
        let r ← converted m conversion r
        let specification ← braceFrom m arguments keywords fuel (after.drop 1) next
        let shown ← formatObject m r specification
        pure (shown ++ (← braceFrom m arguments keywords fuel rest next))
    | c :: rest => do
      pure ((⟨[c]⟩ : Text) ++ (← braceFrom m arguments keywords fuel rest next))

/-- Fills in a template with braces. -/
def formatBraces (m : Machine) (template : Text) (arguments : List Ref)
    (keywords : List (Text × Ref)) : Eval Text :=
  braceFrom m arguments keywords (template.length + 1) template.points 0

end Eval

end EmbeddedPython
