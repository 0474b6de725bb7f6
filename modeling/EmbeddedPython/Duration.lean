/-
  Spans of time

  A span is a whole number of nanoseconds. It is described in the largest unit
  in which its whole part is not zero, with the fraction in as few digits as
  it needs.
-/

namespace EmbeddedPython

/-- A span of time. -/
structure Duration where
  nanoseconds : Nat
  deriving DecidableEq, Repr, Inhabited

namespace Duration

def ofParts (seconds nanoseconds : Nat) : Duration := ⟨seconds * 1000000000 + nanoseconds⟩

def ofMilliseconds (ms : Nat) : Duration := ⟨ms * 1000000⟩

/-- The whole milliseconds of the span. -/
def milliseconds (d : Duration) : Nat := d.nanoseconds / 1000000

/-- The digits of a fraction of `places` decimal places, without trailing zeros. -/
def fractionDigits (places fraction : Nat) : String :=
  let digits := (toString fraction).toList
  let padded := List.replicate (places - digits.length) '0' ++ digits
  String.ofList ((padded.reverse.dropWhile (· == '0')).reverse)

/-- A count of units of `10 ^ places` nanoseconds, with its name. -/
def inUnit (d : Duration) (places : Nat) (unit : String) : String :=
  let size := Nat.pow 10 places
  let fraction := d.nanoseconds % size
  let whole := toString (d.nanoseconds / size)
  if fraction = 0 then whole ++ unit
  else whole ++ "." ++ fractionDigits places fraction ++ unit

/-- The described form of a span. -/
def describe (d : Duration) : String :=
  if 1000000000 ≤ d.nanoseconds then d.inUnit 9 "s"
  else if 1000000 ≤ d.nanoseconds then d.inUnit 6 "ms"
  else if 1000 ≤ d.nanoseconds then d.inUnit 3 "µs"
  else d.inUnit 0 "ns"

end Duration

end EmbeddedPython
