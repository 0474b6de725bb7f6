import EmbeddedPython.Decimal.Binary64
import EmbeddedPython.Language.Tree

/-
  Tokens

  A program is read as tokens. Lines and their indentation are tokens too, but
  not inside brackets. What cannot be a token is a problem, which ends the
  list: a reader finds it where it gets that far.
-/

namespace EmbeddedPython.Language

/-- Why a program cannot be read. -/
structure Problem where
  isIndentation : Bool
  message : String
  line : Nat
  deriving DecidableEq, Repr, Inhabited

namespace Problem

def invalid (line : Nat) : Problem := ⟨false, "invalid syntax", line⟩

end Problem

inductive Token where
  | int (n : Int)
  | float (x : Float)
  | text (t : Text)
  | bytes (b : List UInt8)
  /-- a formatted text: what stands between its quotes, and whether backslashes are escapes -/
  | format (body : List Char) (raw : Bool)
  | name (s : String)
  | op (s : String)
  | newline
  | indent
  | dedent
  | finish
  | bad (p : Problem) (unclosed : Bool)
  deriving Inhabited

/-- A token and its line. -/
structure Located where
  token : Token
  line : Nat
  deriving Inhabited

def isNameStart (c : Char) : Bool := c.isAlpha || c == '_' || 128 ≤ c.toNat

def isNamePart (c : Char) : Bool := isNameStart c || c.isDigit

/-! Numbers -/

/-- The digits at the front of a list, single underscores between them left out. -/
def digitRun (isDigit : Char → Bool) : List Char → List Char × List Char
  | [] => ([], [])
  | '_' :: c :: rest =>
    if isDigit c then
      let (digits, rest) := digitRun isDigit (c :: rest)
      (digits, rest)
    else ([], '_' :: c :: rest)
  | c :: rest =>
    if isDigit c then
      let (digits, rest) := digitRun isDigit rest
      (c :: digits, rest)
    else ([], c :: rest)

def digitsValue (base : Nat) (digits : List Char) : Nat :=
  digits.foldl (fun n c => n * base + (Text.digitValue c).getD 0) 0

/-- The exponent at the front of a list. -/
def exponentOf (cs : List Char) : Option (Int × List Char) :=
  match cs with
  | e :: rest =>
    if e == 'e' || e == 'E' then
      let (negative, rest) := match rest with
        | '-' :: rest => (true, rest)
        | '+' :: rest => (false, rest)
        | _ => (false, rest)
      let (digits, rest) := digitRun Char.isDigit rest
      if digits.isEmpty then none
      else
        let n : Int := digitsValue 10 digits
        some (if negative then -n else n, rest)
    else none
  | [] => none

/-- A number at the front of a list; the error is the text of a problem. -/
def numberOf (cs : List Char) : Except String (Token × List Char) :=
  let finish := fun (token : Token) (rest : List Char) (kind : String) =>
    match rest with
    | c :: _ => if isNamePart c && c.toNat < 128 then .error ("invalid " ++ kind ++ " literal") else .ok (token, rest)
    | [] => .ok (token, rest)
  let based := fun (base : Nat) (kind : String) (rest : List Char) =>
    let rest := match rest with
      | '_' :: rest => rest
      | _ => rest
    let isDigit := fun c => match Text.digitValue c with
      | some d => decide (d < base)
      | none => false
    let (digits, rest) := digitRun isDigit rest
    match rest with
    | c :: _ =>
      if c.isDigit then .error ("invalid digit '" ++ c.toString ++ "' in " ++ kind ++ " literal")
      else if digits.isEmpty then .error ("invalid " ++ kind ++ " literal")
      else finish (.int (digitsValue base digits)) rest kind
    | [] => if digits.isEmpty then .error ("invalid " ++ kind ++ " literal") else finish (.int (digitsValue base digits)) rest kind
  match cs with
  | '0' :: 'x' :: rest | '0' :: 'X' :: rest => based 16 "hexadecimal" rest
  | '0' :: 'o' :: rest | '0' :: 'O' :: rest => based 8 "octal" rest
  | '0' :: 'b' :: rest | '0' :: 'B' :: rest => based 2 "binary" rest
  | _ =>
    let (whole, rest) := digitRun Char.isDigit cs
    let (fraction, rest, pointed) := match rest with
      | '.' :: rest =>
        let (digits, rest) := digitRun Char.isDigit rest
        (digits, rest, true)
      | _ => ([], rest, false)
    match exponentOf rest with
    | some (e, rest) =>
      finish (.float (Binary64.ofDecimal false (digitsValue 10 (whole ++ fraction))
        (e - fraction.length))) rest "decimal"
    | none =>
      if pointed then
        finish (.float (Binary64.ofDecimal false (digitsValue 10 (whole ++ fraction))
          (-(fraction.length : Int)))) rest "decimal"
      else if whole.head? == some '0' && whole.any (· != '0') then
        .error ("leading zeros in decimal integer literals are not permitted; "
          ++ "use an 0o prefix for octal integers")
      else finish (.int (digitsValue 10 whole)) rest "decimal"

/-! Texts -/

/-- The value of up to `count` hexadecimal digits at the front of a list, if there are as many. -/
def hexDigits (count : Nat) (cs : List Char) : Option (Nat × List Char) :=
  let digits := cs.take count
  if digits.length = count && digits.all fun c => match Text.digitValue c with
    | some d => decide (d < 16)
    | none => false
  then some (digitsValue 16 digits, cs.drop count)
  else none

/-- The octal digits, at most `count`, at the front of a list. -/
def octalDigits (count : Nat) (cs : List Char) : Nat × List Char :=
  let digits := (cs.take count).takeWhile fun c => '0' ≤ c && c ≤ '7'
  (digitsValue 8 digits, cs.drop digits.length)

/-- The code points of a text with escapes; the error says which escape is cut short. -/
def unescape (inText : Bool) : Nat → List Char → Except String (List Nat)
  | 0, _ => .ok []
  | _, [] => .ok []
  | fuel + 1, '\\' :: c :: rest =>
    let single := fun (n : Nat) => do pure (n :: (← unescape inText fuel rest))
    match c with
    | '\n' => unescape inText fuel rest
    | '\\' => single 0x5C
    | '\'' => single 0x27
    | '"' => single 0x22
    | 'a' => single 7
    | 'b' => single 8
    | 'f' => single 12
    | 'n' => single 10
    | 'r' => single 13
    | 't' => single 9
    | 'v' => single 11
    | 'x' =>
      match hexDigits 2 rest with
      | some (n, rest) => do pure (n :: (← unescape inText fuel rest))
      | none => .error "\\xXX"
    | c =>
      if '0' ≤ c && c ≤ '7' then
        let (n, rest) := octalDigits 3 (c :: rest)
        do pure ((if inText then n else n % 256) :: (← unescape inText fuel rest))
      else if inText && (c == 'u' || c == 'U') then
        match hexDigits (if c == 'u' then 4 else 8) rest with
        | some (n, rest) => do pure (n :: (← unescape inText fuel rest))
        | none => .error (if c == 'u' then "\\uXXXX" else "\\UXXXXXXXX")
      else do pure (0x5C :: c.toNat :: (← unescape inText fuel rest))
  | fuel + 1, c :: rest => do pure (c.toNat :: (← unescape inText fuel rest))

/-- What stands before the closing quotes, and what after them; `none` if they never come. -/
def untilQuote (quote : Char) (triple : Bool) : List Char → Option (List Char × List Char)
  | [] => none
  | '\\' :: c :: rest =>
    (untilQuote quote triple rest).map fun p => ('\\' :: c :: p.1, p.2)
  | c :: rest =>
    if c == quote then
      if !triple then some ([], rest)
      else match rest with
        | a :: b :: after =>
          if a == quote && b == quote then some ([], after)
          else (untilQuote quote triple rest).map fun p => (c :: p.1, p.2)
        | _ => none
    else if c == '\n' && !triple then none
    else (untilQuote quote triple rest).map fun p => (c :: p.1, p.2)

/-- A text after its first letters, which say what kind of text it is. -/
def textOf (kind : List Char) (cs : List Char) (line : Nat) :
    Except String (Token × List Char × Nat) :=
  match cs with
  | [] => .error "invalid syntax"
  | quote :: rest =>
    let (triple, rest) := match rest with
      | a :: b :: after => if a == quote && b == quote then (true, after) else (false, rest)
      | _ => (false, rest)
    match untilQuote quote triple rest with
    | none =>
      let detected := line + (if triple then (rest.filter (· == '\n')).length else 0)
      .error ((if triple then "unterminated triple-quoted string literal"
        else "unterminated string literal") ++ " (detected at line " ++ toString detected ++ ")")
    | some (body, rest) =>
      let raw := kind.contains 'r'
      let lines := (body.filter (· == '\n')).length
      if kind.contains 'f' then .ok (.format body raw, rest, lines)
      else if kind.contains 'b' then
        if body.any fun c => 128 ≤ c.toNat then
          .error "bytes can only contain ASCII literal characters"
        else if raw then .ok (.bytes (body.map fun c => UInt8.ofNat c.toNat), rest, lines)
        else match unescape false body.length body with
          | .ok points => .ok (.bytes (points.map UInt8.ofNat), rest, lines)
          | .error _ => .error "(value error) invalid \\x escape at position 0"
      else if raw then .ok (.text ⟨body.map Char.toNat⟩, rest, lines)
      else match unescape true body.length body with
        | .ok points => .ok (.text ⟨points⟩, rest, lines)
        | .error what =>
          .error ("(unicode error) 'unicodeescape' codec can't decode bytes in position 0-"
            ++ toString (body.length - 1) ++ ": truncated " ++ what ++ " escape")

/-- Whether a name in front of a quote says what kind of text follows. -/
def isTextKind (s : String) : Bool :=
  ["r", "b", "u", "f", "rb", "br", "fr", "rf"].contains s.toLower

/-! Operators -/

def operators : List String := [
  "**=", "//=", ">>=", "<<=", "...", "**", "//", ">>", "<<", "<=", ">=", "==", "!=", "->", "+=",
  "-=", "*=", "/=", "%=", "&=", "|=", "^=", "@=", ":=", "+", "-", "*", "/", "%", "@", "&", "|",
  "^", "~", "<", ">", "(", ")", "[", "]", "\x7b", "\x7d", ",", ":", ".", ";", "="]

/-- The longest operator at the front of a list. -/
def operatorOf (cs : List Char) : Option (String × List Char) :=
  (operators.find? fun s => s.toList.isPrefixOf cs).map fun s => (s, cs.drop s.length)

def closing : String → String
  | "(" => ")"
  | "[" => "]"
  | _ => "\x7d"

/-! Lines -/

/-- The state of reading tokens. -/
structure Lexer where
  rest : List Char
  line : Nat
  /-- open brackets with their lines, innermost first -/
  brackets : List (String × Nat)
  /-- indentations of the open blocks, innermost first -/
  indents : List Nat
  atStart : Bool
  /-- the tokens read so far, latest first -/
  tokens : List Located

namespace Lexer

def emit (l : Lexer) (t : Token) : Lexer := { l with tokens := ⟨t, l.line⟩ :: l.tokens }

def stopWith (l : Lexer) (message : String) : Lexer :=
  { l.emit (.bad ⟨false, message, l.line⟩ false) with rest := [] }

/-- The width of the blanks at the front of a line, and what follows them. -/
def blanks : Nat → List Char → Nat × List Char
  | width, ' ' :: rest => blanks (width + 1) rest
  | width, '\t' :: rest => blanks ((width / 8 + 1) * 8) rest
  | _, '\x0c' :: rest => blanks 0 rest
  | width, rest => (width, rest)

/-- Closes blocks down to an indentation. -/
def closeBlocks (l : Lexer) (width : Nat) : List Nat → Lexer
  | [] => { l with indents := [] }
  | top :: below =>
    if width < top then closeBlocks (l.emit .dedent) width below
    else { l with indents := top :: below }

/-- Enters a line that is not blank. -/
def enterLine (l : Lexer) (width : Nat) : Lexer :=
  let top := l.indents.headD 0
  if width = top then l
  else if top < width then { l.emit .indent with indents := width :: l.indents }
  else
    let l := l.closeBlocks width l.indents
    if l.indents.headD 0 = width then l
    else { l.emit (.bad ⟨true, "unindent does not match any outer indentation level", l.line⟩ false)
      with rest := [] }

/-- Reads one token or skips a blank; `none` at the end. -/
def step (l : Lexer) : Option Lexer :=
  if l.atStart && l.brackets.isEmpty then
    let (width, rest) := blanks 0 l.rest
    match rest with
    | '#' :: _ | '\n' :: _ | '\r' :: _ =>
      let after := rest.dropWhile (· != '\n')
      match after with
      | '\n' :: after => some { l with rest := after, line := l.line + 1 }
      | _ => some { l with rest := [], atStart := true }
    | [] => if l.rest.isEmpty then none
      else some { ({ l with rest := [] } : Lexer).enterLine width with atStart := false }
    | _ => some { ({ l with rest := rest } : Lexer).enterLine width with atStart := false }
  else
    match l.rest with
    | [] => none
    | c :: rest =>
      if c == ' ' || c == '\t' || c == '\x0c' || c == '\r' then some { l with rest := rest }
      else if c == '#' then some { l with rest := rest.dropWhile (· != '\n') }
      else if c == '\n' then
        if l.brackets.isEmpty then
          some { l.emit .newline with rest := rest, line := l.line + 1, atStart := true }
        else some { l with rest := rest, line := l.line + 1 }
      else if c == '\\' then
        match rest with
        | '\n' :: rest => some { l with rest := rest, line := l.line + 1 }
        | '\r' :: '\n' :: rest => some { l with rest := rest, line := l.line + 1 }
        | [] => some (l.stopWith "unexpected EOF while parsing")
        | _ => some (l.stopWith "unexpected character after line continuation character")
      else if isNameStart c then
        let word := (c :: rest).takeWhile isNamePart
        let after := (c :: rest).drop word.length
        let quoted := match after with
          | q :: _ => q == '\'' || q == '"'
          | [] => false
        if quoted && isTextKind (String.ofList word) then
          match textOf (word.map Char.toLower) after l.line with
          | .ok (t, after, lines) => some { l.emit t with rest := after, line := l.line + lines }
          | .error message => some (l.stopWith message)
        else some { l.emit (.name (String.ofList word)) with rest := after }
      else if c.isDigit || (c == '.' && (rest.headD ' ').isDigit) then
        match numberOf (c :: rest) with
        | .ok (t, after) => some { l.emit t with rest := after }
        | .error message => some (l.stopWith message)
      else if c == '\'' || c == '"' then
        match textOf [] (c :: rest) l.line with
        | .ok (t, after, lines) => some { l.emit t with rest := after, line := l.line + lines }
        | .error message => some (l.stopWith message)
      else
        match operatorOf (c :: rest) with
        | none => some (l.stopWith "invalid syntax")
        | some (s, after) =>
          let next := { l.emit (.op s) with rest := after }
          if s == "(" || s == "[" || s == "\x7b" then
            some { next with brackets := (s, l.line) :: l.brackets }
          else if s == ")" || s == "]" || s == "\x7d" then
            match l.brackets with
            | [] => some (l.stopWith ("unmatched '" ++ s ++ "'"))
            | (opening, openedAt) :: below =>
              if closing opening == s then some { next with brackets := below }
              else
                let place := if openedAt = l.line then "" else " on line " ++ toString openedAt
                some (l.stopWith ("closing parenthesis '" ++ s
                  ++ "' does not match opening parenthesis '" ++ opening ++ "'" ++ place))
          else some next

/-- Reads tokens until the end. -/
def run : Nat → Lexer → Lexer
  | 0, l => l
  | fuel + 1, l =>
    match l.step with
    | none => l
    | some next => run fuel next

/-- Closes the list of tokens: the last line, the open blocks, and the end. -/
def close (l : Lexer) : List Located :=
  match l.tokens with
  | ⟨.bad p u, n⟩ :: rest => (⟨.bad p u, n⟩ :: rest).reverse
  | tokens =>
    match l.brackets with
    | (opening, openedAt) :: _ =>
      (⟨.bad ⟨false, "'" ++ opening ++ "' was never closed", openedAt⟩ true, l.line⟩ :: tokens).reverse
    | [] =>
      let l := match tokens with
        | [] => l
        | ⟨.newline, _⟩ :: _ => l
        | _ => l.emit .newline
      let l := if l.atStart then { l with line := l.line - 1 } else l
      let l := l.closeBlocks 0 l.indents
      (l.emit .finish).tokens.reverse

end Lexer

/-- The tokens of a program. -/
def tokens (source : List Char) : List Located :=
  let start : Lexer := ⟨source, if source.isEmpty then 0 else 1, [], [], true, []⟩
  (start.run (2 * source.length + 2)).close

end EmbeddedPython.Language
