import EmbeddedPython.Decimal.Binary64
import EmbeddedPython.Text.Basic

/-
  Hashes

  Numbers are hashed by their value modulo a Mersenne prime, so that an integer
  and a float of one value have one hash. A hash is never -1. Tuples mix the
  hashes of their items in order, frozen sets mix them in any order. The hashes
  of texts are the library's own: no answer depends on them.
-/

namespace EmbeddedPython.Hash

/-- The prime that numbers are reduced by, `2 ^ 61 - 1`. -/
def modulus : Nat := Nat.pow 2 61 - 1

/-- The value that stands in for -1. -/
def avoid (n : Int) : Int := if n = -1 then -2 else n

def ofInt (n : Int) : Int :=
  avoid (if n < 0 then -((n.natAbs % modulus : Nat) : Int) else (n.natAbs % modulus : Nat))

/-- A hash that the parts of a double determine; `none` for what is no number. -/
def ofFloat? (x : Float) : Option Int :=
  let (negative, exponent, fraction) := Binary64.parts x
  let sign : Int := if negative then -1 else 1
  if exponent = 2047 then if fraction = 0 then some (sign * 314159) else none
  else
    let (m, q) := Binary64.significand exponent fraction
    -- the value is `m · 2 ^ (q - 1074)`, and powers of two repeat after 61
    let power : Nat := (((q : Int) - 1074) % 61).toNat
    some (avoid (sign * ((m * Nat.pow 2 power % modulus : Nat) : Int)))

/-- A word as a signed number. -/
def signed (w : UInt64) : Int :=
  if w.toNat < Nat.pow 2 63 then w.toNat else (w.toNat : Int) - Int.pow 2 64

def word (n : Int) : UInt64 := UInt64.ofNat (n % Int.pow 2 64).toNat

def rotate31 (w : UInt64) : UInt64 := (w <<< 31) ||| (w >>> 33)

def ofTuple (items : List Int) : Int :=
  let mixed : UInt64 := items.foldl (fun (acc : UInt64) (h : Int) =>
    rotate31 (acc + word h * 14029467366897019727) * 11400714785074694791)
    (2870177450012600261 : UInt64)
  let last : UInt64 := 2870177450012600261 ^^^ 3527539
  let mixed := mixed + (UInt64.ofNat items.length ^^^ last)
  if mixed = 0xFFFFFFFFFFFFFFFF then 1546275796 else signed mixed

/-- Spreads the bits of a hash. -/
def spread (h : UInt64) : UInt64 :=
  let mask : UInt64 := 89869747
  let factor : UInt64 := 3644798167
  ((h ^^^ mask) ^^^ (h <<< 16)) * factor

def ofFrozenSet (items : List Int) : Int :=
  let mixed : UInt64 := items.foldl (fun acc h => acc ^^^ spread (word h)) 0
  let size : UInt64 := (UInt64.ofNat items.length + 1) * 1927868237
  let mixed := mixed ^^^ size
  let mixed := mixed ^^^ ((mixed >>> 11) ^^^ (mixed >>> 25))
  let mixed := mixed * 69069 + 907133923
  if mixed = 0xFFFFFFFFFFFFFFFF then 590923713 else signed mixed

/-- A hash of a sequence of numbers. -/
def ofPoints (points : List Nat) : Int :=
  if points.isEmpty then 0
  else avoid (signed (points.foldl (fun (acc : UInt64) c =>
    (acc ^^^ UInt64.ofNat c) * 1099511628211) (14695981039346656037 : UInt64)))

def ofText (t : Text) : Int := ofPoints t.points

end EmbeddedPython.Hash
