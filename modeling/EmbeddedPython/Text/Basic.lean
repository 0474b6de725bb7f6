/-
  Texts as the interpreter holds them

  A text is a sequence of code points. Unlike a `String` it may hold
  surrogates, which no UTF-8 string can spell; `toString?` is the partial way
  back.
-/

namespace EmbeddedPython

/-- A text of the interpreter: code points, surrogates among them. -/
structure Text where
  points : List Nat
  deriving DecidableEq, Repr, Inhabited

namespace Text

/-- Whether a code point is a surrogate, which UTF-8 has no form for. -/
def isSurrogate (c : Nat) : Bool := 0xD800 ≤ c && c ≤ 0xDFFF

/-- The text that spells a string. -/
def ofString (s : String) : Text := ⟨s.toList.map Char.toNat⟩

/-- The string of the code points, if no surrogate is among them. -/
def toString? (t : Text) : Option String :=
  if t.points.any isSurrogate then none
  else some (String.ofList (t.points.map Char.ofNat))

/-- The string of the code points, each surrogate replaced by `U+FFFD`. -/
def toStringLossy (t : Text) : String :=
  String.ofList (t.points.map fun c => if isSurrogate c then '\uFFFD' else Char.ofNat c)

def append (a b : Text) : Text := ⟨a.points ++ b.points⟩

instance : Append Text := ⟨append⟩

instance : Coe String Text := ⟨ofString⟩

def empty : Text := ⟨[]⟩

def length (t : Text) : Nat := t.points.length

/-- The texts with `separator` between neighbours. -/
def intercalate (separator : Text) : List Text → Text
  | [] => empty
  | [t] => t
  | t :: rest => t ++ separator ++ intercalate separator rest

/-- The order of texts: the first code point that differs decides. -/
def isLess (a b : Text) : Bool := a.points < b.points

/-- Where and how long the first run of surrogates is. -/
def firstSurrogates (t : Text) : Option (Nat × Nat) :=
  let before := t.points.takeWhile (fun c => !isSurrogate c)
  let run := (t.points.drop before.length).takeWhile isSurrogate
  if run.isEmpty then none else some (before.length, run.length)

end Text

end EmbeddedPython
