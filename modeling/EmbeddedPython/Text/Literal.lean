import EmbeddedPython.Text.Basic
import EmbeddedPython.Text.Digits
import EmbeddedPython.Text.Unprintable

/-
  Literals

  The form in which the interpreter shows a text or a byte string: as a literal
  that reads back. Single quotes are taken unless the text has one and no
  double quote; what has no picture is escaped by number.
-/

namespace EmbeddedPython.Text

/-- The code points of a string. -/
def codes (s : String) : List Nat := s.toList.map Char.toNat

/-- One code point of a text literal in the given quotes. -/
def literalPoint (quote c : Nat) : List Nat :=
  if c = quote ∨ c = 0x5C then [0x5C, c]
  else if c = 0x09 then codes "\\t"
  else if c = 0x0A then codes "\\n"
  else if c = 0x0D then codes "\\r"
  else if c < 0x20 ∨ c = 0x7F then codes ("\\x" ++ hexField 2 c)
  else if c < 0x7F then [c]
  else if !isSurrogate c && isPrintable c then [c]
  else if c ≤ 0xFF then codes ("\\x" ++ hexField 2 c)
  else if c ≤ 0xFFFF then codes ("\\u" ++ hexField 4 c)
  else codes ("\\U" ++ hexField 8 c)

/-- The quote that a literal is put in. -/
def literalQuote (cs : List Nat) : Nat :=
  if cs.contains 0x27 && !cs.contains 0x22 then 0x22 else 0x27

/-- The literal of a text. -/
def literal (t : Text) : Text :=
  let quote := literalQuote t.points
  ⟨[quote] ++ t.points.flatMap (literalPoint quote) ++ [quote]⟩

/-- One byte of a byte literal in the given quotes. -/
def literalByte (quote c : Nat) : List Nat :=
  if c = quote ∨ c = 0x5C then [0x5C, c]
  else if c = 0x09 then codes "\\t"
  else if c = 0x0A then codes "\\n"
  else if c = 0x0D then codes "\\r"
  else if c < 0x20 ∨ 0x7F ≤ c then codes ("\\x" ++ hexField 2 c)
  else [c]

/-- The literal of a byte string. -/
def bytesLiteral (b : List UInt8) : Text :=
  let cs := b.map UInt8.toNat
  let quote := literalQuote cs
  ⟨[0x62, quote] ++ cs.flatMap (literalByte quote) ++ [quote]⟩

end EmbeddedPython.Text
