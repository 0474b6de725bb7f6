import EmbeddedPython.Text.Digits
import EmbeddedPython.Text.Unprintable
import EmbeddedPython.Text.Extender

/-
  Quoted text of the host

  The form in which the host shows a string inside a description: between
  double quotes, with the quote, the backslash and the usual control
  characters escaped by a letter, and every other character that has no
  picture, or that extends its neighbour, written as `\u` with its number in
  braces.
-/

namespace EmbeddedPython.Text

/-- Code points that got a picture after Unicode 14, up to version 15.1. -/
def assignedLaterRanges : Array (Nat × Nat) := #[
  (0xCF3, 0xCF3), (0xECE, 0xECE), (0x2FFC, 0x2FFF), (0x31EF, 0x31EF), (0x10EFD, 0x10EFF),
  (0x1123F, 0x11241), (0x11B00, 0x11B09), (0x11F00, 0x11F10), (0x11F12, 0x11F3A),
  (0x11F3E, 0x11F59), (0x13439, 0x13455), (0x1B132, 0x1B132), (0x1B155, 0x1B155),
  (0x1D2C0, 0x1D2D3), (0x1DF25, 0x1DF2A), (0x1E030, 0x1E06D), (0x1E08F, 0x1E08F),
  (0x1E4D0, 0x1E4F9), (0x1F6DC, 0x1F6DC), (0x1F774, 0x1F776), (0x1F77B, 0x1F77F),
  (0x1F7D9, 0x1F7D9), (0x1FA75, 0x1FA77), (0x1FA87, 0x1FA88), (0x1FAAD, 0x1FAAF),
  (0x1FABB, 0x1FABD), (0x1FABF, 0x1FABF), (0x1FACE, 0x1FACF), (0x1FADA, 0x1FADB),
  (0x1FAE8, 0x1FAE8), (0x1FAF7, 0x1FAF8), (0x2EBF0, 0x2EE5D), (0x31350, 0x323AF)]

/-- The marks among them that extend the character before. -/
def extenderLaterRanges : Array (Nat × Nat) := #[
  (0xECE, 0xECE), (0x10EFD, 0x10EFF), (0x11241, 0x11241), (0x11F00, 0x11F01),
  (0x11F36, 0x11F3A), (0x11F40, 0x11F40), (0x11F42, 0x11F42), (0x13440, 0x13440),
  (0x13447, 0x13455), (0x1E08F, 0x1E08F), (0x1E4EC, 0x1E4EF)]

/-- Whether the host writes the code point as it is. -/
def isPlain (c : Nat) : Bool :=
  (isPrintable c || inRanges assignedLaterRanges c)
    && !isExtender c && !inRanges extenderLaterRanges c

/-- One character of a quoted text. -/
def quoteChar (c : Char) : List Char :=
  if c = '"' then ['\\', '"']
  else if c = '\\' then ['\\', '\\']
  else if c = '\n' then ['\\', 'n']
  else if c = '\t' then ['\\', 't']
  else if c = '\r' then ['\\', 'r']
  else if c = '\x00' then ['\\', '0']
  else if (0x20 ≤ c.toNat && c.toNat < 0x7F) || isPlain c.toNat then [c]
  else ['\\', 'u', '\x7b'] ++ digitsFrom 16 c.toNat [] ++ ['\x7d']

/-- The quoted form of a string. -/
def quoted (s : String) : String :=
  String.ofList (['"'] ++ s.toList.flatMap quoteChar ++ ['"'])

/-- The described form of a record: its name and its fields in order. -/
def record (name : String) (fields : List (String × String)) : String :=
  name ++ " \x7b " ++ ", ".intercalate (fields.map fun f => f.1 ++ ": " ++ f.2) ++ " \x7d"

/-- The described form of a truth value. -/
def ofBool (b : Bool) : String := if b then "true" else "false"

end EmbeddedPython.Text
