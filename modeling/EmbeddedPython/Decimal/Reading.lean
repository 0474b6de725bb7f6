import EmbeddedPython.Decimal.Binary64
import EmbeddedPython.Text.Search

/-
  Reading numbers

  An integer is digits to a base with a sign, and single underscores between
  the digits. A double is decimal digits with an optional point and power of
  ten, or one of the words for infinity and what is no number. Blanks around
  a number do not count.
-/

namespace EmbeddedPython

namespace Decimal

/-- A sequence without the blanks around it. -/
def trimmed (cs : List Nat) : List Nat := Text.stripRight Text.isBlank (Text.stripLeft Text.isBlank cs)

/-- The sign at the front, and what follows it. -/
def signOf : List Nat → Bool × List Nat
  | 0x2D :: rest => (true, rest)
  | 0x2B :: rest => (false, rest)
  | cs => (false, cs)

/-- The digits, single underscores between them left out; `none` for any other underscore. -/
def plainDigits : Bool → List Nat → Option (List Nat)
  | _, [] => some []
  | true, 0x5F :: c :: rest => if c == 0x5F then none else plainDigits true (c :: rest)
  | _, 0x5F :: _ => none
  | _, c :: rest => (plainDigits true rest).map (c :: ·)

def pointDigit (c : Nat) : Option Nat := Text.digitValue (Char.ofNat c)

/-- The value of digits to a base, if they are digits of it. -/
def valueOf? (base : Nat) (cs : List Nat) : Option Nat :=
  cs.foldl (fun acc c =>
    match acc, pointDigit c with
    | some n, some d => if d < base then some (n * base + d) else none
    | _, _ => none) (some 0)

/-- The base that a prefix names. -/
def namedBase (c : Nat) : Option Nat :=
  match Char.ofNat c with
  | 'x' | 'X' => some 16
  | 'o' | 'O' => some 8
  | 'b' | 'B' => some 2
  | _ => none

/-- Reads an integer; base zero takes the base from a prefix. -/
def int? (base : Nat) (cs : List Nat) : Option Int :=
  let (negative, cs) := signOf (trimmed cs)
  let (found, rest, led) := match cs with
    | 0x30 :: c :: rest =>
      match namedBase c with
      | some b => if base = 0 ∨ base = b then (b, rest, true) else (base, cs, false)
      | none => (base, cs, false)
    | _ => (base, cs, false)
  let decimal := if found = 0 then 10 else found
  match (if rest.isEmpty then none else plainDigits led rest) with
  | none => none
  | some digits =>
    match valueOf? decimal digits with
    | none => none
    | some n =>
      if base = 0 && !led && digits.head? == some 0x30 && n != 0 then none
      else some (if negative then -(n : Int) else n)

/-- The digits at the front of a sequence, underscores included. -/
def digitSpan (cs : List Nat) : List Nat × List Nat :=
  let digits := cs.takeWhile fun c => Text.isDigit c || c == 0x5F
  (digits, cs.drop digits.length)

/-- The power of ten after a number; nothing is zero. -/
def power? (cs : List Nat) : Option Int :=
  match cs with
  | [] => some 0
  | e :: rest =>
    if e == 0x65 || e == 0x45 then
      let (negative, digits) := signOf rest
      if digits.isEmpty || !(digits.all fun c => Text.isDigit c || c == 0x5F) then none
      else (plainDigits false digits).bind fun ds => (valueOf? 10 ds).map fun n =>
        if negative then -(n : Int) else n
    else none

/-- Reads a double. -/
def float? (cs : List Nat) : Option Float :=
  let (negative, cs) := signOf (trimmed cs)
  let word := String.ofList (cs.map fun c => (Char.ofNat c).toLower)
  if word == "inf" || word == "infinity" then some (Binary64.infinity negative)
  else if word == "nan" then some (0.0 / 0.0)
  else
    let (whole, rest) := digitSpan cs
    let (fraction, rest) := match rest with
      | 0x2E :: rest => digitSpan rest
      | rest => ([], rest)
    if whole.isEmpty && fraction.isEmpty then none
    else
      match plainDigits false whole, plainDigits false fraction, power? rest with
      | some a, some b, some e =>
        (valueOf? 10 (a ++ b)).map fun n => Binary64.ofDecimal negative n (e - b.length)
      | _, _, _ => none

end Decimal

end EmbeddedPython
