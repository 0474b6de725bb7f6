import EmbeddedPython.Text.Digits

/-
  Binary floating point and decimal text

  A finite double is `m · 2 ^ q` with natural `m`. The reals that round to it
  form an interval around it whose ends belong to it exactly when `m` is even.
  Its shortest decimal form is the first of the grids with 1, 2, … 17 digits
  that meets the interval, and on that grid the nearer of the value's two
  neighbours. The way back rounds a ratio of naturals to the nearest double, a
  tie to the even one.
-/

namespace EmbeddedPython.Binary64

/-- The parts of a double: its sign, the biased exponent and the fraction. -/
def parts (x : Float) : Bool × Nat × Nat :=
  let bits := x.toBits.toNat
  (Nat.pow 2 63 ≤ bits, bits / Nat.pow 2 52 % Nat.pow 2 11, bits % Nat.pow 2 52)

/-- A positive finite double as `m · 2 ^ (q - 1074)`. -/
def significand (exponent fraction : Nat) : Nat × Nat :=
  if exponent = 0 then (fraction, 0) else (Nat.pow 2 52 + fraction, exponent - 1)

/-- Decimal digits, the first not zero, and where the decimal point stands: the value is
`0.d₁d₂… · 10 ^ point`. -/
structure Digits where
  digits : List Nat
  point : Int
  deriving DecidableEq, Repr, Inhabited

/-- The digits of a natural number. -/
def natDigits (n : Nat) : List Nat :=
  (Text.digitsFrom 10 n []).map fun c => c.toNat - 0x30

/-- The least `k` above `low` with `num / den < 10 ^ k`, found in at most `fuel` steps. -/
def pointFrom : Nat → Int → Nat → Nat → Int
  | 0, low, _, _ => low
  | fuel + 1, low, num, den =>
    if num < den then low else pointFrom fuel (low + 1) num (den * 10)

/-- Where the decimal point of `num / den` stands. -/
def decimalPoint (num den : Nat) : Int :=
  let guess : Int := ((Nat.log2 num : Int) - (Nat.log2 den : Int) - 1) * 30103 / 100000 - 1
  if 0 ≤ guess then pointFrom 8 guess num (den * Nat.pow 10 guess.toNat)
  else pointFrom 8 guess (num * Nat.pow 10 (-guess).toNat) den

/-- The candidate on the grid with `n` digits for a value `num / den` in the interval from
`low / den` to `high / den`, its ends included if `closed`. -/
def onGrid (n : Nat) (num low high den : Nat) (point : Int) (closed : Bool) : Option Nat :=
  let shift : Int := (n : Int) - point
  let scale := fun (x : Nat) => if 0 ≤ shift then x * Nat.pow 10 shift.toNat else x
  let unit := if 0 ≤ shift then den else den * Nat.pow 10 (-shift).toNat
  let below := scale num / unit
  let fits := fun (d : Nat) =>
    if closed then scale low ≤ d * unit && d * unit ≤ scale high
    else scale low < d * unit && d * unit < scale high
  let rest := scale num - below * unit
  let nearBelow := 2 * rest < unit || (2 * rest == unit && below % 2 == 0)
  match fits below, fits (below + 1) with
  | true, true => some (if nearBelow then below else below + 1)
  | true, false => some below
  | false, true => some (below + 1)
  | false, false => none

/-- The first grid of the list with a candidate. -/
def firstGrid (num low high den : Nat) (point : Int) (closed : Bool) : List Nat → Option (Nat × Nat)
  | [] => none
  | n :: rest =>
    match onGrid n num low high den point closed with
    | some d => some (n, d)
    | none => firstGrid num low high den point closed rest

/-- The shortest digits that read back as the positive finite double. -/
def shortestOf (exponent fraction : Nat) : Digits :=
  let (m, q) := significand exponent fraction
  -- the value is `4 m · 2 ^ q / 2 ^ 1076`; the interval reaches half a unit each way, and only
  -- a quarter downwards where the next smaller double lies closer
  let num := 4 * m * Nat.pow 2 q
  let low := (4 * m - (if fraction = 0 ∧ 1 < exponent then 1 else 2)) * Nat.pow 2 q
  let high := (4 * m + 2) * Nat.pow 2 q
  let den := Nat.pow 2 1076
  let point := decimalPoint num den
  match firstGrid num low high den point (m % 2 == 0) (List.range' 1 17) with
  | none => ⟨[0], point⟩
  | some (n, d) =>
    let digits := natDigits d
    ⟨(digits.reverse.dropWhile (· == 0)).reverse, point + ((digits.length : Int) - n)⟩

/-- The kinds of doubles: not a number, infinite, zero, and finite with its shortest digits. -/
inductive Shape where
  | nan
  | infinite (negative : Bool)
  | zero (negative : Bool)
  | finite (negative : Bool) (digits : Digits)

def shape (x : Float) : Shape :=
  let (negative, exponent, fraction) := parts x
  if exponent = 2047 then if fraction = 0 then .infinite negative else .nan
  else if exponent = 0 ∧ fraction = 0 then .zero negative
  else .finite negative (shortestOf exponent fraction)

def digitText (digits : List Nat) : String := String.ofList (digits.map Text.digitChar)

def zeros (n : Nat) : String := String.ofList (List.replicate n '0')

/-- Digits with the point among them, and at least one digit after it. -/
def positional (d : Digits) : String :=
  if d.point ≤ 0 then "0." ++ zeros (-d.point).toNat ++ digitText d.digits
  else
    let point := d.point.toNat
    if d.digits.length ≤ point then digitText d.digits ++ zeros (point - d.digits.length) ++ ".0"
    else digitText (d.digits.take point) ++ "." ++ digitText (d.digits.drop point)

/-- Digits with the point after the first and a power of ten of at least two digits. -/
def scientific (d : Digits) : String :=
  let power := d.point - 1
  let mantissa := match d.digits with
    | [] => "0"
    | [x] => digitText [x]
    | x :: rest => digitText [x] ++ "." ++ digitText rest
  let size := toString power.natAbs
  mantissa ++ "e" ++ (if power < 0 then "-" else "+") ++ (if size.length < 2 then "0" else "") ++ size

def signed (negative : Bool) (s : String) : String := if negative then "-" ++ s else s

/-- The interpreter's form of a double: positional from `1e-4` up to below `1e16`. -/
def literal (x : Float) : String :=
  match shape x with
  | .nan => "nan"
  | .infinite negative => signed negative "inf"
  | .zero negative => signed negative "0.0"
  | .finite negative d =>
    signed negative (if -4 < d.point ∧ d.point ≤ 16 then positional d else scientific d)

/-- The form of a double with all its places written out. -/
def plain (x : Float) : String :=
  match shape x with
  | .nan => "NaN"
  | .infinite negative => signed negative "inf"
  | .zero negative => signed negative "0.0"
  | .finite negative d => signed negative (positional d)

/-- The bits of the double nearest to `num / den`; `none` beyond the largest double. -/
def roundBits (num den : Nat) : Option Nat :=
  if num = 0 ∨ den = 0 then some 0
  else
    let scaled := fun (s : Int) =>
      if 0 ≤ s then (num * Nat.pow 2 s.toNat, den) else (num, den * Nat.pow 2 (-s).toNat)
    let guess : Int := 52 - ((Nat.log2 num : Int) - (Nat.log2 den : Int))
    let (n, d) := scaled guess
    let q := n / d
    let s := if Nat.pow 2 53 ≤ q then guess - 1 else if q < Nat.pow 2 52 then guess + 1 else guess
    let s := min s 1074
    let (n, d) := scaled s
    let q := n / d
    let rest := n % d
    let q := if d < 2 * rest ∨ (2 * rest = d ∧ q % 2 = 1) then q + 1 else q
    let (q, s) := if q = Nat.pow 2 53 then (Nat.pow 2 52, s - 1) else (q, s)
    if q < Nat.pow 2 52 then some q
    else
      let exponent := 1075 - s
      if 2047 ≤ exponent then none else some (exponent.toNat * Nat.pow 2 52 + (q - Nat.pow 2 52))

def withSign (negative : Bool) (bits : Nat) : Float :=
  Float.ofBits (UInt64.ofNat (if negative then Nat.pow 2 63 + bits else bits))

def infinity (negative : Bool) : Float := withSign negative (2047 * Nat.pow 2 52)

/-- The double nearest to `± num / den`; `none` beyond the largest double. -/
def ofRatio? (negative : Bool) (num den : Nat) : Option Float :=
  (roundBits num den).map (withSign negative)

/-- The double nearest to an integer; `none` beyond the largest double. -/
def ofInt? (n : Int) : Option Float := ofRatio? (n < 0) n.natAbs 1

/-- The double nearest to `± digits · 10 ^ exponent`, infinite beyond the largest double. -/
def ofDecimal (negative : Bool) (digits : Nat) (exponent : Int) : Float :=
  let size : Int := (natDigits digits).length + exponent
  if digits = 0 ∨ size < -400 then withSign negative 0
  else if 400 < size then infinity negative
  else
    let bits := if 0 ≤ exponent then roundBits (digits * Nat.pow 10 exponent.toNat) 1
      else roundBits digits (Nat.pow 10 (-exponent).toNat)
    match bits with
    | none => infinity negative
    | some b => withSign negative b

/-- A finite double as a ratio: its sign, numerator and denominator. -/
def toRatio? (x : Float) : Option (Bool × Nat × Nat) :=
  let (negative, exponent, fraction) := parts x
  if exponent = 2047 then none
  else
    let (m, q) := significand exponent fraction
    if 1074 ≤ q then some (negative, m * Nat.pow 2 (q - 1074), 1) else some (negative, m, Nat.pow 2 (1074 - q))

end EmbeddedPython.Binary64
