import EmbeddedPython.Decimal.Reading
import EmbeddedPython.Duration

/-
  Deadlines

  A deadline is given as a decimal number of seconds. Any double can be
  written; whether it is a span of time is decided when the deadline is used.
-/

namespace EmbeddedPython.CommandLine

/-- A number of seconds as a span of time. -/
inductive Deadline where
  | after (d : Duration)
  | negative
  /-- too many seconds to count, or no number -/
  | beyond
  deriving DecidableEq, Repr, Inhabited

/-- Why a text is no number. -/
inductive NumberProblem where
  | empty
  | malformed
  deriving DecidableEq, Repr, Inhabited

def NumberProblem.message : NumberProblem → String
  | empty => "cannot parse float from empty string"
  | malformed => "invalid float literal"

namespace Deadline

/-- What is wrong with a deadline. -/
def problem? : Deadline → Option String
  | after _ => none
  | negative => some "cannot convert float seconds to Duration: value is negative"
  | beyond => some "cannot convert float seconds to Duration: value is either too big or NaN"

/-- The largest whole number of seconds is below this. -/
def secondsBound : Nat := Nat.pow 2 64

/-- The whole number nearest to a ratio; of two that are equally near the even one. -/
def nearest (num den : Nat) : Nat :=
  let q := num / den
  let rest := num % den
  if den < 2 * rest ∨ (2 * rest = den ∧ q % 2 = 1) then q + 1 else q

/-- A number of seconds, to the nearest nanosecond. -/
def ofSeconds (x : Float) : Deadline :=
  match Binary64.toRatio? x with
  | none => if x < 0.0 then negative else beyond
  | some (minus, num, den) =>
    if minus && num != 0 then negative
    else if secondsBound * den ≤ num then beyond
    else after ⟨nearest (num * 1000000000) den⟩

/-- Whether a character can stand in a number. -/
def isNumeral (c : Char) : Bool := c.isAlphanum || c == '+' || c == '-' || c == '.'

/-- Reads a number of seconds. -/
def read (s : String) : Except NumberProblem Deadline :=
  let cs := s.toList
  if cs.isEmpty then .error .empty
  else if cs.all isNumeral then
    match Decimal.float? (cs.map Char.toNat) with
    | some x => .ok (ofSeconds x)
    | none => .error .malformed
  else .error .malformed

end Deadline

end EmbeddedPython.CommandLine
