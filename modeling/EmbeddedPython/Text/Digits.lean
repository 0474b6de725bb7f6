/-
  Numerals

  Positional numerals in lower case, and the fixed-width hexadecimal fields of
  escapes.
-/

namespace EmbeddedPython.Text

/-- The digit that stands for `d`, lower case above nine. -/
def digitChar (d : Nat) : Char :=
  if d < 10 then Char.ofNat (0x30 + d) else Char.ofNat (0x61 + (d - 10))

/-- The value of a digit, up to thirty-six. -/
def digitValue (c : Char) : Option Nat :=
  if '0' ≤ c && c ≤ '9' then some (c.toNat - 0x30)
  else if 'a' ≤ c && c ≤ 'z' then some (c.toNat - 0x61 + 10)
  else if 'A' ≤ c && c ≤ 'Z' then some (c.toNat - 0x41 + 10)
  else none

/-- The digits of `n`, most significant first, in front of `acc`. -/
def digitsFrom (base n : Nat) (acc : List Char) : List Char :=
  if base < 2 ∨ n < base then digitChar n :: acc
  else digitsFrom base (n / base) (digitChar (n % base) :: acc)
  termination_by n
  decreasing_by exact Nat.div_lt_self (by omega) (by omega)

/-- The numeral of `n` to the given base. -/
def numeral (base n : Nat) : String := String.ofList (digitsFrom base n [])

/-- The hexadecimal numeral of `n`, filled up with zeros to `width` digits. -/
def hexField (width n : Nat) : String :=
  let digits := digitsFrom 16 n []
  String.ofList (List.replicate (width - digits.length) '0' ++ digits)

end EmbeddedPython.Text
