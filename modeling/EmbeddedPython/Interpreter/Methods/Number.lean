import EmbeddedPython.Interpreter.Methods.Container

/-
  Methods of numbers
-/

namespace EmbeddedPython

namespace Eval

/-- How many bits a natural number has. -/
def bitLength (n : Nat) : Nat := if n = 0 then 0 else Nat.log2 n + 1

/-- How many bits of a natural number are set. -/
def bitCount (n : Nat) : Nat := ((List.range (bitLength n)).filter n.testBit).length

/-- A number rounded to a multiple of a power of ten, a half to the even multiple. -/
def roundedInt (n : Int) (digits : Int) : Int :=
  if 0 ≤ digits then n
  else
    let unit : Nat := Nat.pow 10 (-digits).toNat
    let q := FormatSpec.roundedQuotient n.natAbs unit
    let size : Int := (q * unit : Nat)
    if n < 0 then -size else size

/-- A double rounded to a number of decimal places, a half to the even digit. -/
def roundedFloat (x : Float) (digits : Int) : Float :=
  match Binary64.toRatio? x with
  | none => x
  | some (negative, num, den) =>
    if 0 ≤ digits then
      if 400 < digits then x
      else
        let scale := Nat.pow 10 digits.toNat
        let q := FormatSpec.roundedQuotient (num * scale) den
        (Binary64.ofRatio? negative q scale).getD x
    else
      let unit := Nat.pow 10 (min (-digits) 400).toNat
      let q := FormatSpec.roundedQuotient num (den * unit)
      (Binary64.ofRatio? negative (q * unit) 1).getD x

/-- An object rounded. -/
def rounded (m : Machine) (r : Ref) (digits : Option Ref) : Eval Ref := do
  match (← special r "__round__") with
  | some (.member f) => callMember m f r digits.toList
  | some (.native _) =>
    match (← valueOf r), digits with
    | .int n, none | .int n, some (.static .none) => newInt n
    | .int n, some d => do newInt (roundedInt n (← index m d))
    | .float x, none | .float x, some (.static .none) => do newInt (← truncated (roundedFloat x 0))
    | .float x, some d => do newFloat (roundedFloat x (← index m d))
    | _, _ => typeError ("type " ++ (← typeName r) ++ " doesn't define __round__ method")
  | none => typeError ("type " ++ (← typeName r) ++ " doesn't define __round__ method")

/-- The bytes of a natural number, least significant first. -/
def bytesOfNat (n : Nat) : Nat → List UInt8
  | 0 => []
  | count + 1 => UInt8.ofNat (n % 256) :: bytesOfNat (n / 256) count

/-- Whether an argument asks for the least significant byte first. -/
def littleEndian (r : Option Ref) : Eval Bool := do
  match r with
  | none => pure false
  | some r =>
    match (← valueOf r) with
    | .text t =>
      if t == Text.ofString "little" then pure true
      else if t == Text.ofString "big" then pure false
      else valueError "byteorder must be either 'little' or 'big'"
    | _ => typeError ("must be str, not " ++ (← typeName r))

def intMethod (m : Machine) (name : String) (n : Int) (arguments : List Ref)
    (keywords : List (Text × Ref)) : Eval (Option Ref) := do
  let answer := fun (body : Eval Ref) => do pure (some (← body))
  match name with
  | "bit_length" => do
    noArguments "int" name arguments
    answer (newInt (bitLength n.natAbs))
  | "bit_count" => do
    noArguments "int" name arguments
    answer (newInt (bitCount n.natAbs))
  | "conjugate" | "__int__" | "__index__" | "__trunc__" | "__floor__" | "__ceil__" => do
    noArguments "int" name arguments
    answer (newInt n)
  | "as_integer_ratio" => answer (do newTuple [← newInt n, ← newInt 1])
  | "to_bytes" => do
    match (← fillNamed name ["length", "byteorder", "signed"] arguments keywords) with
    | size :: order :: signed :: _ => do
      let size ← match size with
        | some r => smallIndex m .overflowError r
        | none => pure 1
      let little ← littleEndian order
      let signed ← match signed with
        | some r => truth m r
        | none => pure false
      let size := size.toNat
      let bound : Int := Int.pow 2 (8 * size - (if signed then 1 else 0))
      if n < 0 ∧ !signed then
        raise .overflowError "can't convert negative int to unsigned"
      else if bound ≤ n ∨ n < -bound then raise .overflowError "int too big to convert"
      else
        let b := bytesOfNat (n % Int.pow 2 (8 * size)).toNat size
        answer (newBytes (if little then b else b.reverse))
    | _ => pure none
  | _ => pure none

def floatMethod (name : String) (x : Float) (arguments : List Ref) : Eval (Option Ref) := do
  let answer := fun (body : Eval Ref) => do pure (some (← body))
  match name with
  | "is_integer" => do
    noArguments "float" name arguments
    answer (match Binary64.toRatio? x with
      | some (_, num, den) => newBool (num % den == 0)
      | none => newBool false)
  | "conjugate" | "__float__" => answer (newFloat x)
  | "__int__" | "__trunc__" => answer (do newInt (← truncated x))
  | "__floor__" => answer (do newInt (← truncated x.floor))
  | "__ceil__" => answer (do newInt (← truncated x.ceil))
  | "as_integer_ratio" =>
    match Binary64.toRatio? x with
    | some (negative, num, den) =>
      let g := Nat.gcd num den
      let top : Int := (num / g : Nat)
      answer (do newTuple [← newInt (if negative then -top else top), ← newInt (den / g : Nat)])
    | none =>
      if x == x then raise .overflowError "cannot convert Infinity to integer ratio"
      else valueError "cannot convert NaN to integer ratio"
  | _ => pure none

end Eval

end EmbeddedPython
