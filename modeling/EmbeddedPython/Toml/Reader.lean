import EmbeddedPython.Toml.Value

/-
  Reading TOML

  A reader takes characters and gives a result with the characters that it
  left over. Values nest, so the readers of values count down from the length
  of the text, which no nesting can exceed.
-/

namespace EmbeddedPython.Toml

/-- A reader of some part of a document. -/
abbrev Reader (α : Type) := List Char → Option (α × List Char)

def isBlank (c : Char) : Bool := c == ' ' || c == '\t'

def skipBlanks (cs : List Char) : List Char := cs.dropWhile isBlank

/-- Takes an end of line. -/
def lineEnd : Reader Unit
  | '\n' :: rest => some ((), rest)
  | '\r' :: '\n' :: rest => some ((), rest)
  | _ => none

/-- Whether a character may stand in a comment or a string on one line. -/
def isPlainChar (c : Char) : Bool := c == '\t' || (0x20 ≤ c.toNat && c.toNat != 0x7F)

/-- Skips blanks and a comment. -/
def skipComment (cs : List Char) : Option (List Char) :=
  match skipBlanks cs with
  | '#' :: rest =>
    let rest := rest.dropWhile isPlainChar
    match rest with
    | [] => some []
    | _ => (lineEnd rest).map fun _ => rest
  | rest => some rest

/-- The end of a line that holds something: blanks, a comment, and the end of line or of text. -/
def lineRest (cs : List Char) : Option (List Char) := do
  let rest ← skipComment cs
  match rest with
  | [] => some []
  | _ => (lineEnd rest).map (·.2)

/-- Skips blanks, comments and ends of line. -/
def skipLines : Nat → List Char → Option (List Char)
  | 0, cs => some cs
  | fuel + 1, cs => do
    let rest ← skipComment cs
    match lineEnd rest with
    | none => some rest
    | some (_, rest) => skipLines fuel rest

def isBareKeyChar (c : Char) : Bool := c.isAlphanum || c == '-' || c == '_'

/-- Takes exactly `n` hexadecimal digits. -/
def hexDigits (n : Nat) (cs : List Char) : Option (Nat × List Char) :=
  let digits := cs.take n
  if digits.length < n then none
  else
    (digits.foldlM (fun (acc : Nat) c => do
      let d ← Text.digitValue c
      if d < 16 then some (acc * 16 + d) else none) 0).map fun v => (v, cs.drop n)

/-- The character of an escape, after its backslash. -/
def escape : Reader Char
  | 'b' :: rest => some ('\x08', rest)
  | 't' :: rest => some ('\t', rest)
  | 'n' :: rest => some ('\n', rest)
  | 'f' :: rest => some ('\x0c', rest)
  | 'r' :: rest => some ('\r', rest)
  | '"' :: rest => some ('"', rest)
  | '\\' :: rest => some ('\\', rest)
  | 'u' :: rest => scalar 4 rest
  | 'U' :: rest => scalar 8 rest
  | _ => none
where
  scalar (n : Nat) (cs : List Char) : Option (Char × List Char) := do
    let (v, rest) ← hexDigits n cs
    if v.isValidChar then some (Char.ofNat v, rest) else none

/-- A basic string after its opening quote. -/
def basicString : Nat → List Char → List Char → Option (String × List Char)
  | 0, _, _ => none
  | _, acc, '"' :: rest => some (String.ofList acc.reverse, rest)
  | fuel + 1, acc, '\\' :: rest => do
    let (c, rest) ← escape rest
    basicString fuel (c :: acc) rest
  | fuel + 1, acc, c :: rest => if isPlainChar c then basicString fuel (c :: acc) rest else none
  | _, _, [] => none

/-- A literal string after its opening quote. -/
def literalString (cs : List Char) : Option (String × List Char) :=
  let body := cs.takeWhile fun c => c != '\'' && isPlainChar c
  match cs.drop body.length with
  | '\'' :: rest => some (String.ofList body, rest)
  | _ => none

/-- How many quotes a text begins with. -/
def quoteRun (q : Char) (cs : List Char) : Nat := (cs.takeWhile (· == q)).length

/-- A string over several lines after its opening quotes. Up to two quotes may stand before the
closing three; escapes are read unless `raw`. -/
def longString (q : Char) (raw : Bool) : Nat → List Char → List Char → Option (String × List Char)
  | 0, _, _ => none
  | _, _, [] => none
  | fuel + 1, acc, c :: rest =>
    if c == q then
      let run := 1 + quoteRun q rest
      if 6 ≤ run then none
      else if 3 ≤ run then
        some (String.ofList (List.replicate (run - 3) q ++ acc).reverse, (c :: rest).drop run)
      else longString q raw fuel (List.replicate run q ++ acc) ((c :: rest).drop run)
    else if c == '\\' && !raw then
      match lineEnd (skipBlanks rest) with
      | some (_, after) => longString q raw fuel acc (skipSpace after)
      | none =>
        match escape rest with
        | none => none
        | some (e, rest) => longString q raw fuel (e :: acc) rest
    else
      match lineEnd (c :: rest) with
      | some (_, rest) => longString q raw fuel ('\n' :: acc) rest
      | none => if isPlainChar c then longString q raw fuel (c :: acc) rest else none
where
  skipSpace (cs : List Char) : List Char :=
    cs.dropWhile fun c => isBlank c || c == '\n' || c == '\r'

/-- Drops an end of line right after the opening quotes. -/
def dropFirstLineEnd (cs : List Char) : List Char :=
  match lineEnd cs with
  | some (_, rest) => rest
  | none => cs

/-- A string of any of the four kinds. -/
def anyString : Reader String
  | '"' :: '"' :: '"' :: rest =>
    longString '"' false (rest.length + 1) [] (dropFirstLineEnd rest)
  | '"' :: rest => basicString (rest.length + 1) [] rest
  | '\'' :: '\'' :: '\'' :: rest =>
    longString '\'' true (rest.length + 1) [] (dropFirstLineEnd rest)
  | '\'' :: rest => literalString rest
  | _ => none

/-- One part of a key. -/
def simpleKey : Reader String
  | '"' :: rest => basicString (rest.length + 1) [] rest
  | '\'' :: rest => literalString rest
  | cs =>
    let bare := cs.takeWhile isBareKeyChar
    if bare.isEmpty then none else some (String.ofList bare, cs.drop bare.length)

/-- A dotted key: its parts in order, at least one. -/
def dottedKey : Nat → List Char → Option (List String × List Char)
  | 0, _ => none
  | fuel + 1, cs => do
    let (part, rest) ← simpleKey (skipBlanks cs)
    match skipBlanks rest with
    | '.' :: rest => do
      let (parts, rest) ← dottedKey fuel rest
      some (part :: parts, rest)
    | rest => some ([part], rest)

/-- Digits of a base with single underscores between them. -/
def digitRun (base : Nat) (cs : List Char) : Option (List Char × List Char) :=
  let isDigit := fun c => match Text.digitValue c with
    | some d => d < base
    | none => false
  let run := cs.takeWhile fun c => isDigit c || c == '_'
  let rec single : List Char → Bool
    | [] => false
    | ['_'] => false
    | '_' :: '_' :: _ => false
    | [_] => true
    | _ :: rest => single rest
  match run with
  | [] => none
  | '_' :: _ => none
  | _ => if single run then some (run.filter (· != '_'), cs.drop run.length) else none

def digitsValue (base : Nat) (digits : List Char) : Nat :=
  digits.foldl (fun acc c => acc * base + (Text.digitValue c).getD 0) 0

/-- An integer must fit in 64 bits with its sign. -/
def fitting (n : Int) : Option Value :=
  if -(Int.pow 2 63) ≤ n ∧ n < Int.pow 2 63 then some (.integer n) else none

/-- A number with an optional sign: an integer to one of four bases, or a float. -/
def number (cs : List Char) : Option (Value × List Char) :=
  match cs with
  | '0' :: 'x' :: rest => based 16 rest
  | '0' :: 'o' :: rest => based 8 rest
  | '0' :: 'b' :: rest => based 2 rest
  | '+' :: rest => decimal false rest
  | '-' :: rest => decimal true rest
  | _ => decimal false cs
where
  based (base : Nat) (cs : List Char) : Option (Value × List Char) := do
    let (digits, rest) ← digitRun base cs
    let v ← fitting (digitsValue base digits)
    some (v, rest)
  /-- The exponent of a float, if one follows. -/
  power (cs : List Char) : Option (Option Int × List Char) :=
    match cs with
    | 'e' :: rest | 'E' :: rest =>
      let (negative, rest) := match rest with
        | '-' :: rest => (true, rest)
        | '+' :: rest => (false, rest)
        | _ => (false, rest)
      match digitRun 10 rest with
      | none => none
      | some (digits, rest) =>
        let n : Int := digitsValue 10 digits
        some (some (if negative then -n else n), rest)
    | _ => some (none, cs)
  decimal (negative : Bool) (cs : List Char) : Option (Value × List Char) :=
    match cs with
    | 'i' :: 'n' :: 'f' :: rest => some (.float (Binary64.infinity negative), rest)
    | 'n' :: 'a' :: 'n' :: rest => some (.float (0.0 / 0.0), rest)
    | _ => do
      let (digits, rest) ← digitRun 10 cs
      if digits.head? == some '0' && 1 < digits.length then none
      else
        let (fraction, rest) ← match rest with
          | '.' :: rest => (digitRun 10 rest).map fun (f, rest) => (some f, rest)
          | _ => some (none, rest)
        let (exponent, rest) ← power rest
        match fraction, exponent with
        | none, none => do
          let n : Int := digitsValue 10 digits
          let v ← fitting (if negative then -n else n)
          some (v, rest)
        | _, _ =>
          let places := fraction.getD []
          let x := Binary64.ofDecimal negative (digitsValue 10 (digits ++ places))
            (exponent.getD 0 - places.length)
          if x.toBits == (Binary64.infinity false).toBits then none else some (.float x, rest)

/-- Takes exactly `n` digits with a value in a range. -/
def field (n low high : Nat) (cs : List Char) : Option (Nat × List Char) :=
  let digits := cs.take n
  if digits.length == n && digits.all Char.isDigit then
    let v := digitsValue 10 digits
    if low ≤ v && v ≤ high then some (v, cs.drop n) else none
  else none

def expect (c : Char) : List Char → Option (List Char)
  | d :: rest => if c == d then some rest else none
  | [] => none

def daysOf (year month : Nat) : Nat :=
  if month == 2 then
    if year % 4 == 0 && (year % 100 != 0 || year % 400 == 0) then 29 else 28
  else if month == 4 || month == 6 || month == 9 || month == 11 then 30
  else 31

/-- A time of day, with a fraction of a second. -/
def timeOfDay (cs : List Char) : Option (List Char) := do
  let (_, rest) ← field 2 0 23 cs
  let rest ← expect ':' rest
  let (_, rest) ← field 2 0 59 rest
  let rest ← expect ':' rest
  let (_, rest) ← field 2 0 60 rest
  match rest with
  | '.' :: rest =>
    let digits := rest.takeWhile Char.isDigit
    if digits.isEmpty then none else some (rest.drop digits.length)
  | _ => some rest

/-- The offset after a time, if one follows. -/
def timeOffset (cs : List Char) : Option (List Char) :=
  match cs with
  | 'Z' :: rest | 'z' :: rest => some rest
  | '+' :: rest | '-' :: rest => do
    let (_, rest) ← field 2 0 23 rest
    let rest ← expect ':' rest
    let (_, rest) ← field 2 0 59 rest
    some rest
  | _ => some cs

/-- A date, a time or both. -/
def dateTime (cs : List Char) : Option (List Char) :=
  match cs with
  | [_, _, ':'] | _ :: _ :: ':' :: _ => timeOfDay cs
  | _ => do
    let (year, rest) ← field 4 0 9999 cs
    let rest ← expect '-' rest
    let (month, rest) ← field 2 1 12 rest
    let rest ← expect '-' rest
    let (_, rest) ← field 2 1 (daysOf year month) rest
    match rest with
    | 'T' :: after | 't' :: after => do
      let rest ← timeOfDay after
      timeOffset rest
    | ' ' :: after =>
      if (after.take 2).length == 2 && (after.take 2).all Char.isDigit then do
        let rest ← timeOfDay after
        timeOffset rest
      else some rest
    | _ => some rest

/-- Whether a text begins like a date or a time. -/
def startsDateTime : List Char → Bool
  | a :: b :: ':' :: _ => a.isDigit && b.isDigit
  | a :: b :: c :: d :: '-' :: _ => a.isDigit && b.isDigit && c.isDigit && d.isDigit
  | _ => false

mutual
/-- A value. -/
def value : Nat → List Char → Option (Value × List Char)
  | 0, _ => none
  | fuel + 1, cs =>
    match cs with
    | '"' :: _ | '\'' :: _ => (anyString cs).map fun (s, rest) => (.text s, rest)
    | '[' :: rest => (arrayItems fuel rest).map fun (items, rest) => (.array items, rest)
    | '{' :: rest =>
      match skipBlanks rest with
      | '}' :: rest => some (.table [], rest)
      | rest => (inlineEntries fuel Table.root rest).map fun (t, rest) => (t.node.toValue, rest)
    | 't' :: 'r' :: 'u' :: 'e' :: rest => some (.boolean true, rest)
    | 'f' :: 'a' :: 'l' :: 's' :: 'e' :: rest => some (.boolean false, rest)
    | _ =>
      if startsDateTime cs then (dateTime cs).map fun rest => (.dateTime, rest)
      else number cs
/-- The items of an array up to its bracket; a comma may follow the last. -/
def arrayItems : Nat → List Char → Option (List Value × List Char)
  | 0, _ => none
  | fuel + 1, cs => do
    let rest ← skipLines cs.length cs
    match rest with
    | ']' :: rest => some ([], rest)
    | _ => do
      let (v, rest) ← value fuel rest
      let rest ← skipLines rest.length rest
      match rest with
      | ',' :: rest => do
        let (items, rest) ← arrayItems fuel rest
        some (v :: items, rest)
      | ']' :: rest => some ([v], rest)
      | _ => none
/-- The entries of an inline table up to its brace. -/
def inlineEntries : Nat → Table → List Char → Option (Table × List Char)
  | 0, _, _ => none
  | fuel + 1, t, cs => do
    let (path, rest) ← dottedKey (cs.length + 1) cs
    let rest ← expect '=' (skipBlanks rest)
    let (v, rest) ← value fuel (skipBlanks rest)
    let key ← path.getLast?
    let t ← t.insert path.dropLast key v
    match skipBlanks rest with
    | ',' :: rest => inlineEntries fuel t rest
    | '}' :: rest => some (t, rest)
    | _ => none
end

/-- Reads the lines of a document into a draft. -/
def lines : Nat → Draft → List Char → Option Draft
  | 0, _, _ => none
  | fuel + 1, d, cs =>
    match skipBlanks cs with
    | [] => some d
    | '#' :: _ => do
      let rest ← lineRest cs
      lines fuel d rest
    | '\n' :: rest => lines fuel d rest
    | '\r' :: '\n' :: rest => lines fuel d rest
    | '[' :: '[' :: rest => do
      let (path, rest) ← dottedKey (rest.length + 1) rest
      let rest ← expect ']' (skipBlanks rest)
      let rest ← expect ']' rest
      let rest ← lineRest rest
      let d ← d.beginElement path
      lines fuel d rest
    | '[' :: rest => do
      let (path, rest) ← dottedKey (rest.length + 1) rest
      let rest ← expect ']' (skipBlanks rest)
      let rest ← lineRest rest
      let d ← d.beginTable path
      lines fuel d rest
    | rest => do
      let (path, rest) ← dottedKey (rest.length + 1) rest
      let rest ← expect '=' (skipBlanks rest)
      let (v, rest) ← value (rest.length + 1) (skipBlanks rest)
      let rest ← lineRest rest
      let key ← path.getLast?
      let d ← d.add path.dropLast key v
      lines fuel d rest

/-- The entries of a document in their order; `none` if it is ill-formed. A byte order mark at
the start is skipped. -/
def parse? (s : String) : Option (List (String × Value)) := do
  let cs := match s.toList with
    | '\uFEFF' :: rest => rest
    | cs => cs
  let d ← lines (cs.length + 1) Draft.start cs
  let t ← d.finish
  some (Node.toValues t.entries)

end EmbeddedPython.Toml
