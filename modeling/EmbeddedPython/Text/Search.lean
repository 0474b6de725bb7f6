/-
  Searching and splitting

  Finding, splitting and replacing parts of a sequence of code points or
  bytes. A part is looked for from the left, and found parts do not overlap.
-/

namespace EmbeddedPython.Text

/-- Whether a code point separates words. -/
def isBlank (c : Nat) : Bool :=
  (9 ≤ c && c ≤ 13) || (0x1C ≤ c && c ≤ 0x20) || c == 0x85 || c == 0xA0 || c == 0x1680
    || (0x2000 ≤ c && c ≤ 0x200A) || c == 0x2028 || c == 0x2029 || c == 0x202F || c == 0x205F
    || c == 0x3000

/-- Where a part first stands in a sequence, counted from `i`. -/
def findFrom (part : List Nat) (i : Nat) : List Nat → Option Nat
  | [] => if part.isEmpty then some i else none
  | c :: rest => if part.isPrefixOf (c :: rest) then some i else findFrom part (i + 1) rest

def find? (part cs : List Nat) : Option Nat := findFrom part 0 cs

/-- Where a part last stands in a sequence. -/
def findLast? (part cs : List Nat) : Option Nat :=
  (find? part.reverse cs.reverse).map fun i => cs.length - part.length - i

/-- The pieces between separators, at most `limit` of which are taken. -/
def splitOn (separator : List Nat) : Nat → List Nat → List (List Nat)
  | 0, cs => [cs]
  | limit + 1, cs =>
    match find? separator cs with
    | none => [cs]
    | some i => cs.take i :: splitOn separator limit (cs.drop (i + separator.length))

/-- The words of a sequence; after `limit` of them the rest is one piece. -/
def splitBlank : Nat → List Nat → List (List Nat)
  | limit, cs =>
    let cs := cs.dropWhile isBlank
    if cs.isEmpty then []
    else match limit with
      | 0 => [(cs.reverse.dropWhile isBlank).reverse]
      | limit + 1 =>
        let word := cs.takeWhile fun c => !isBlank c
        word :: splitBlank limit (cs.drop word.length)

/-- Replaces a part, at most `limit` times. -/
def replacePart (old new : List Nat) (limit : Nat) (cs : List Nat) : List Nat :=
  if old.isEmpty then
    let n := min limit (cs.length + 1)
    (cs.zipIdx.flatMap fun p => if p.2 < n then new ++ [p.1] else [p.1])
      ++ (if cs.length < n then new else [])
  else List.intercalate new (splitOn old limit cs)

/-- How often a part stands in a sequence. -/
def countPart (part cs : List Nat) : Nat :=
  if part.isEmpty then cs.length + 1 else (splitOn part cs.length cs).length - 1

def stripLeft (drop : Nat → Bool) (cs : List Nat) : List Nat := cs.dropWhile drop

def stripRight (drop : Nat → Bool) (cs : List Nat) : List Nat :=
  (cs.reverse.dropWhile drop).reverse

/-- The lines of a sequence, with their ends if `keep`. -/
def splitLines (keep : Bool) : List Nat → List (List Nat)
  | [] => []
  | c :: rest =>
    let isEnd := fun c => (10 ≤ c && c ≤ 13) || (0x1C ≤ c && c ≤ 0x1E) || c == 0x85 || c == 0x2028
      || c == 0x2029
    if isEnd c && !(c == 13 && rest.head? == some 10) then
      (if keep then [c] else []) :: splitLines keep rest
    else if c == 13 then
      match rest with
      | d :: rest => (if keep then [c, d] else []) :: splitLines keep rest
      | [] => [[c]]
    else
      match splitLines keep rest with
      | [] => [[c]]
      | line :: lines => (c :: line) :: lines

/-! Letters -/

def isLower (c : Nat) : Bool :=
  (0x61 ≤ c && c ≤ 0x7A) || (0xDF ≤ c && c ≤ 0xFF && c != 0xF7) || (0x3B1 ≤ c && c ≤ 0x3C9)
    || (0x430 ≤ c && c ≤ 0x45F)

def isUpper (c : Nat) : Bool :=
  (0x41 ≤ c && c ≤ 0x5A) || (0xC0 ≤ c && c ≤ 0xDE && c != 0xD7) || (0x391 ≤ c && c ≤ 0x3A9)
    || (0x400 ≤ c && c ≤ 0x42F)

def isDigit (c : Nat) : Bool := 0x30 ≤ c && c ≤ 0x39

/-- Whether a code point is a letter; beyond the first blocks, all but blanks and marks count. -/
def isLetter (c : Nat) : Bool :=
  isLower c || isUpper c || c == 0xAA || c == 0xB5 || c == 0xBA
    || (0x100 ≤ c && !isBlank c && !(0x2000 ≤ c && c ≤ 0x2BFF) && !(0xD800 ≤ c && c ≤ 0xF8FF)
      && c < 0x1F000)

/-- The upper case of a code point, in the blocks of Latin, Greek and Cyrillic letters. -/
def upperPoint (c : Nat) : List Nat :=
  if c == 0xDF then [0x53, 0x53]
  else if c == 0xFF then [0x178]
  else if c == 0xB5 then [0x39C]
  else if c == 0x3C2 then [0x3A3]
  else if isLower c then [if 0x450 ≤ c && c ≤ 0x45F then c - 0x50 else c - 0x20]
  else [c]

def lowerPoint (c : Nat) : List Nat :=
  if isUpper c then [if 0x400 ≤ c && c ≤ 0x40F then c + 0x50 else c + 0x20] else [c]

/-- Each word with its first letter in upper case and the others in lower case. -/
def titleFrom (inWord : Bool) : List Nat → List Nat
  | [] => []
  | c :: rest =>
    (if inWord then lowerPoint c else upperPoint c) ++ titleFrom (isLetter c) rest

end EmbeddedPython.Text
