import EmbeddedPython.Language.Token

/-
  Grammar

  Expressions and statements are read from tokens by descent. A reading that
  fails without a problem of its own is a plain error of syntax at the furthest
  token that was looked at, or the problem that the tokens end with.
-/

namespace EmbeddedPython.Language

/-- The state of a reading. -/
structure Reader where
  tokens : Array Located
  position : Nat
  furthest : Nat
  /-- how many functions and loops are around the statement being read -/
  functions : Nat
  loops : Nat
  /-- the first problem that is only found once everything else has been read -/
  late : Option Problem

/-- A reading; a failure without a problem may be tried another way. -/
abbrev Reading (α : Type) := ExceptT (Option Problem) (StateM Reader) α

namespace Reading

def fail {α : Type} : Reading α := throw none

/-- The token at a distance from the position. -/
def peekAt (distance : Nat) : Reading Token := do
  let s ← get
  let i := s.position + distance
  set { s with furthest := max s.furthest i }
  pure ((s.tokens[i]?.map (·.token)).getD .finish)

def peek : Reading Token := peekAt 0

def advance : Reading Unit := modify fun s => { s with position := s.position + 1 }

def line : Reading Nat := do
  let s ← get
  pure (((s.tokens[s.position]?).map (·.line)).getD 0)

def problem {α : Type} (message : String) : Reading α := do
  throw (some ⟨false, message, ← line⟩)

/-- Notes a problem that counts only if the rest can be read. -/
def noteLate (message : String) : Reading Unit := do
  let n ← line
  modify fun s => { s with late := s.late.orElse fun _ => some ⟨false, message, n⟩ }

def isOp (s : String) : Reading Bool := do
  match (← peek) with
  | .op t => pure (t == s)
  | _ => pure false

def isWord (s : String) : Reading Bool := do
  match (← peek) with
  | .name t => pure (t == s)
  | _ => pure false

/-- Takes an operator if it is there. -/
def takeOp (s : String) : Reading Bool := do
  if ← isOp s then
    advance
    pure true
  else pure false

def takeWord (s : String) : Reading Bool := do
  if ← isWord s then
    advance
    pure true
  else pure false

def expectOp (s : String) : Reading Unit := do
  if !(← takeOp s) then fail

def expectWord (s : String) : Reading Unit := do
  if !(← takeWord s) then fail

/-- Tries a reading; goes back if it fails without a problem. -/
def attempt {α : Type} (body : Reading α) : Reading (Option α) := do
  let before := (← get).position
  tryCatch (do pure (some (← body))) fun
    | none => do
      modify fun s => { s with position := before }
      pure none
    | some p => throw (some p)

end Reading

open Reading

def keywords : List String := [
  "False", "None", "True", "and", "as", "assert", "async", "await", "break", "class", "continue",
  "def", "del", "elif", "else", "except", "finally", "for", "from", "global", "if", "import", "in",
  "is", "lambda", "nonlocal", "not", "or", "pass", "raise", "return", "try", "while", "with",
  "yield"]

/-- Takes a name that is no keyword. -/
def takeName : Reading String := do
  match (← peek) with
  | .name s =>
    if keywords.contains s then fail
    else
      advance
      pure s
  | _ => fail

/-- The operators of each level of binding, loosest first. -/
def operatorLevels : List (List (String × BinaryOperator)) := [
  [("|", .bitOr)], [("^", .bitXor)], [("&", .bitAnd)], [("<<", .lshift), (">>", .rshift)],
  [("+", .add), ("-", .sub)],
  [("*", .mul), ("/", .div), ("//", .floorDiv), ("%", .mod), ("@", .matMul)]]

/-- What an expression is called in errors. -/
def describeExpression : Expression → String
  | .constant .none => "None"
  | .constant (.truth b) => if b then "True" else "False"
  | .constant .ellipsis => "ellipsis"
  | .constant _ => "literal"
  | .name _ => "name"
  | .tuple _ => "tuple"
  | .list _ => "list"
  | .set _ => "set display"
  | .dict _ => "dict literal"
  | .unary .. | .not _ | .binary .. | .and .. | .or .. => "expression"
  | .compare .. => "comparison"
  | .conditional .. => "conditional expression"
  | .lambda .. => "lambda"
  | .call .. => "function call"
  | .attribute .. => "attribute"
  | .subscript .. | .slice .. => "subscript"
  | .comprehension .list .. => "list comprehension"
  | .comprehension .set .. => "set comprehension"
  | .comprehension .dict .. => "dict comprehension"
  | .comprehension .generator .. => "generator expression"
  | .starred _ => "starred"
  | .bind .. => "named expression"
  | .format _ => "f-string expression"

mutual
/-- The part of an expression that cannot be assigned to, if there is one. -/
def badTarget : Expression → Option Expression
  | .name _ | .attribute .. | .subscript .. => none
  | .starred e => badTarget e
  | .tuple items | .list items => badTargets items
  | e => some e
def badTargets : List Expression → Option Expression
  | [] => none
  | e :: rest =>
    match badTarget e with
    | some b => some b
    | none => badTargets rest
end

/-- The keys and values that adjacent texts make. -/
def joinTexts : Token → Token → Option Token
  | .text a, .text b => some (.text (a ++ b))
  | .bytes a, .bytes b => some (.bytes (a ++ b))
  | _, _ => none

/-- The parts of a formatted text: literal text, and the source of a value with its conversion
and specification. -/
inductive RawPart where
  | literal (cs : List Char)
  | value (source : List Char) (conversion : Char) (specification : List Char)

/-- What stands before the end of a value in a formatted text, by the depth of open brackets. -/
def splitValue : Nat → List Char → List Char → Option (List Char × List Char)
  | _, _, [] => none
  | depth, acc, c :: rest =>
    if depth = 0 && (c == '}' || c == ':') then some (acc.reverse, c :: rest)
    else if depth = 0 && c == '!' && rest.head? != some '=' then some (acc.reverse, c :: rest)
    else if c == '(' || c == '[' || c == '\x7b' then splitValue (depth + 1) (c :: acc) rest
    else if c == ')' || c == ']' || c == '}' then splitValue (depth - 1) (c :: acc) rest
    else splitValue depth (c :: acc) rest

/-- Splits the body of a formatted text. -/
def formatParts : Nat → List Char → List Char → Except String (List RawPart)
  | 0, _, _ => .ok []
  | _, acc, [] => .ok (if acc.isEmpty then [] else [.literal acc.reverse])
  | fuel + 1, acc, '\x7b' :: '\x7b' :: rest => formatParts fuel ('\x7b' :: acc) rest
  | fuel + 1, acc, '}' :: '}' :: rest => formatParts fuel ('}' :: acc) rest
  | _ + 1, _, '}' :: _ => .error "f-string: single '\x7d' is not allowed"
  | fuel + 1, acc, '\x7b' :: rest => do
    let before := if acc.isEmpty then [] else [RawPart.literal acc.reverse]
    match splitValue 0 [] rest with
    | none => .error "f-string: expecting '\x7d'"
    | some (source, rest) =>
      if source.all Char.isWhitespace then .error "f-string: empty expression not allowed"
      else
        let (conversion, rest) := match rest with
          | '!' :: c :: rest => (c, rest)
          | rest => (' ', rest)
        if !([' ', 's', 'r', 'a'].contains conversion) then
          .error "f-string: invalid conversion character: expected 's', 'r', or 'a'"
        else
        match rest with
        | '}' :: rest => do
          pure (before ++ .value source conversion [] :: (← formatParts fuel [] rest))
        | ':' :: rest =>
          let specification := rest.takeWhile (· != '}')
          match rest.drop specification.length with
          | '}' :: rest => do
            pure (before ++ .value source conversion specification :: (← formatParts fuel [] rest))
          | _ => .error "f-string: expecting '\x7d'"
        | _ => .error "f-string: expecting '\x7d'"
  | fuel + 1, acc, c :: rest => formatParts fuel (c :: acc) rest

/-- The name at the position, if it is no keyword and an operator follows it. -/
def nameBefore (operator : String) : Reading (Option String) := do
  match (← peek) with
  | .name n =>
    if keywords.contains n then pure none
    else
      match (← peekAt 1) with
      | .op s => pure (if s == operator then some n else none)
      | _ => pure none
  | _ => pure none

/-- Whether the comma at the position closes a list of arguments. -/
def lastComma : Reading Bool := do
  match (← peekAt 1) with
  | .op s => pure (s == ")")
  | _ => pure false

mutual

/-- A list of parameters, up to a closing token. -/
def readParameters (fuel : Nat) (close : String) : Reading (Signature × List Argument) :=
  match fuel with
  | 0 => fail
  | fuel + 1 => readParametersFrom fuel close ⟨[], [], none, [], none⟩ [] false

def readParametersFrom (fuel : Nat) (close : String) (s : Signature) (defaults : List Argument)
    (afterStar : Bool) : Reading (Signature × List Argument) :=
  match fuel with
  | 0 => fail
  | fuel + 1 => do
    if ← isOp close then pure (s, defaults)
    else
      let (s, defaults, afterStar) ←
        if s.keywords.isSome then problem "arguments cannot follow var-keyword argument"
        else if ← takeOp "/" then
          if !s.positionalOnly.isEmpty then problem "/ may appear only once"
          if s.positional.isEmpty then fail
          pure (({ s with positionalOnly := s.positional, positional := [] } : Signature), defaults,
            afterStar)
        else if ← takeOp "**" then do
          let n ← takeName
          pure ({ s with keywords := some n }, defaults, true)
        else if ← takeOp "*" then do
          if ← isOp close then problem "named arguments must follow bare *"
          else if ← isOp "," then do
            match (← peekAt 1) with
            | .op t =>
              if t == "**" || t == close then problem "named arguments must follow bare *"
              else pure (s, defaults, true)
            | _ => pure (s, defaults, true)
          else do
            let n ← takeName
            pure ({ s with variadic := some n }, defaults, true)
        else do
          let n ← takeName
          if close == ")" then
            if ← takeOp ":" then
              let _ ← readExpression fuel
          if ← takeOp "=" then
            let e ← readExpression fuel
            if afterStar then
              pure ({ s with keywordOnly := s.keywordOnly ++ [n] }, defaults ++ [.keyword n e], true)
            else pure ({ s with positional := s.positional ++ [n] }, defaults ++ [.positional e], false)
          else if afterStar then
            pure ({ s with keywordOnly := s.keywordOnly ++ [n] }, defaults, true)
          else if defaults.isEmpty then
            pure ({ s with positional := s.positional ++ [n] }, defaults, false)
          else problem "non-default argument follows default argument"
      if ← takeOp "," then readParametersFrom fuel close s defaults afterStar
      else pure (s, defaults)

def readExpression (fuel : Nat) : Reading Expression :=
  match fuel with
  | 0 => fail
  | fuel + 1 => do
    if ← takeWord "lambda" then
      let (s, defaults) ← readParameters fuel ":"
      expectOp ":"
      pure (.lambda s defaults (← readExpression fuel))
    else
      let e ← readOr fuel
      if ← takeWord "if" then
        let test ← readOr fuel
        if ← takeWord "else" then
          pure (.conditional test e (← readExpression fuel))
        else problem "expected 'else' after 'if' expression"
      else pure e

/-- An expression that may bind a name. -/
def readNamed (fuel : Nat) : Reading Expression :=
  match fuel with
  | 0 => fail
  | fuel + 1 => do
    match (← nameBefore ":=") with
    | some n =>
      advance
      advance
      pure (.bind n (← readExpression fuel))
    | none => readExpression fuel

def readOr (fuel : Nat) : Reading Expression :=
  match fuel with
  | 0 => fail
  | fuel + 1 => do
    let e ← readAnd fuel
    if ← takeWord "or" then pure (.or e (← readOr fuel)) else pure e

def readAnd (fuel : Nat) : Reading Expression :=
  match fuel with
  | 0 => fail
  | fuel + 1 => do
    let e ← readNot fuel
    if ← takeWord "and" then pure (.and e (← readAnd fuel)) else pure e

def readNot (fuel : Nat) : Reading Expression :=
  match fuel with
  | 0 => fail
  | fuel + 1 => do
    if ← takeWord "not" then pure (.not (← readNot fuel))
    else
      let e ← readBinary fuel operatorLevels
      let links ← readLinks fuel
      pure (if links.isEmpty then e else .compare e links)

/-- The links of a chain of comparisons. -/
def readLinks (fuel : Nat) : Reading (List Link) :=
  match fuel with
  | 0 => fail
  | fuel + 1 => do
    let relation : Option Relation ← match (← peek) with
      | .op "<" => do advance; pure (some (.rich .lt))
      | .op "<=" => do advance; pure (some (.rich .le))
      | .op "==" => do advance; pure (some (.rich .eq))
      | .op "!=" => do advance; pure (some (.rich .ne))
      | .op ">" => do advance; pure (some (.rich .gt))
      | .op ">=" => do advance; pure (some (.rich .ge))
      | .name "in" => do advance; pure (some .member)
      | .name "not" => do
        match (← peekAt 1) with
        | .name "in" => do advance; advance; pure (some .notMember)
        | _ => pure none
      | .name "is" => do
        advance
        if ← takeWord "not" then pure (some .isNot) else pure (some .is)
      | _ => pure none
    match relation with
    | none => pure []
    | some r =>
      let e ← readBinary fuel operatorLevels
      pure (.link r e :: (← readLinks fuel))

/-- Operands joined by the operators of a level. -/
def readBinary (fuel : Nat) (levels : List (List (String × BinaryOperator))) : Reading Expression :=
  match fuel with
  | 0 => fail
  | fuel + 1 =>
    match levels with
    | [] => readFactor fuel
    | level :: tighter => do
      let e ← readBinary fuel tighter
      readBinaryRest fuel level tighter e

def readBinaryRest (fuel : Nat) (level : List (String × BinaryOperator))
    (tighter : List (List (String × BinaryOperator))) (left : Expression) : Reading Expression :=
  match fuel with
  | 0 => fail
  | fuel + 1 => do
    match (← peek) with
    | .op s =>
      match level.lookup s with
      | some op =>
        advance
        let right ← readBinary fuel tighter
        readBinaryRest fuel level tighter (.binary op left right)
      | none => pure left
    | _ => pure left

def readFactor (fuel : Nat) : Reading Expression :=
  match fuel with
  | 0 => fail
  | fuel + 1 => do
    if ← takeOp "-" then pure (.unary .neg (← readFactor fuel))
    else if ← takeOp "+" then pure (.unary .pos (← readFactor fuel))
    else if ← takeOp "~" then pure (.unary .invert (← readFactor fuel))
    else
      let waits ← isWord "await"
      if waits then
        let inside := decide (0 < (← get).functions)
        noteLate (if inside then "'await' outside async function" else "'await' outside function")
        advance
      let e ← readAtom fuel
      let e ← readTrailers fuel e
      if ← takeOp "**" then pure (.binary .pow e (← readFactor fuel)) else pure e

/-- The calls, attributes and subscripts after an atom. -/
def readTrailers (fuel : Nat) (e : Expression) : Reading Expression :=
  match fuel with
  | 0 => fail
  | fuel + 1 => do
    if ← takeOp "." then
      let n ← takeName
      readTrailers fuel (.attribute e n)
    else if ← takeOp "(" then
      let arguments ← readArguments fuel true
      expectOp ")"
      readTrailers fuel (.call e arguments)
    else if ← takeOp "[" then
      let index ← readSlices fuel
      expectOp "]"
      readTrailers fuel (.subscript e index)
    else pure e

def readArguments (fuel : Nat) (first : Bool) : Reading (List Argument) :=
  match fuel with
  | 0 => fail
  | fuel + 1 => do
    if ← isOp ")" then pure []
    else
      let argument : Argument ←
        if ← takeOp "**" then pure (.mapping (← readExpression fuel))
        else if ← takeOp "*" then pure (.starred (← readExpression fuel))
        else do
          match (← nameBefore "=") with
          | some n =>
            advance
            advance
            pure (.keyword n (← readExpression fuel))
          | none =>
            let e ← readNamed fuel
            let clauses ← readClauses fuel
            if ← isOp "=" then
              match e with
              | .constant .none | .constant (.truth _) =>
                problem ("cannot assign to " ++ describeExpression e)
              | _ => problem ("expression cannot contain assignment, perhaps you meant \"==\"?")
            if clauses.isEmpty then pure (.positional e)
            else
              if !first || (← isOp ",") && !(← lastComma) then
                problem "Generator expression must be parenthesized"
              pure (.positional (.comprehension .generator e Expression.absent clauses))
      if ← takeOp "," then
        let rest ← readArguments fuel false
        match argument, rest with
        | .keyword .., .positional _ :: _ => problem "positional argument follows keyword argument"
        | .mapping _, .positional _ :: _ =>
          problem "positional argument follows keyword argument unpacking"
        | .mapping _, .starred _ :: _ =>
          problem "iterable argument unpacking follows keyword argument unpacking"
        | _, _ => pure (argument :: rest)
      else if ← isOp ")" then pure [argument]
      else commaForgotten

/-- An expression may not follow another one inside brackets. -/
def commaForgotten {α : Type} : Reading α := do
  match (← peek) with
  | .int _ | .float _ | .text _ | .bytes _ => problem "invalid syntax. Perhaps you forgot a comma?"
  | .name n =>
    if keywords.contains n then fail else problem "invalid syntax. Perhaps you forgot a comma?"
  | _ => fail

/-- What stands between the brackets of a subscript. -/
def readSlices (fuel : Nat) : Reading Expression :=
  match fuel with
  | 0 => fail
  | fuel + 1 => do
    let first ← readSlice fuel
    if ← isOp "," then
      pure (.tuple (first :: (← readMoreSlices fuel)))
    else pure first

def readMoreSlices (fuel : Nat) : Reading (List Expression) :=
  match fuel with
  | 0 => fail
  | fuel + 1 => do
    if ← takeOp "," then
      if ← isOp "]" then pure []
      else
        let e ← readSlice fuel
        pure (e :: (← readMoreSlices fuel))
    else pure []

def readSlice (fuel : Nat) : Reading Expression :=
  match fuel with
  | 0 => fail
  | fuel + 1 => do
    let start ← if ← isOp ":" then pure none else do pure (some (← readNamed fuel))
    if ← takeOp ":" then
      let stop ← readBound fuel
      let step ← if ← takeOp ":" then readBound fuel else pure Expression.absent
      pure (.slice (start.getD Expression.absent) stop step)
    else
      match start with
      | some e => pure e
      | none => fail

/-- A bound of a slice, if it is there. -/
def readBound (fuel : Nat) : Reading Expression :=
  match fuel with
  | 0 => fail
  | fuel + 1 => do
    match (← peek) with
    | .op ":" | .op "]" | .op "," => pure Expression.absent
    | _ => readExpression fuel

/-- The clauses of a comprehension. -/
def readClauses (fuel : Nat) : Reading (List Clause) :=
  match fuel with
  | 0 => fail
  | fuel + 1 => do
    if ← takeWord "for" then
      let target ← readTargets fuel
      expectWord "in"
      let source ← readOr fuel
      let conditions ← readConditions fuel
      pure (.over target source conditions :: (← readClauses fuel))
    else pure []

def readConditions (fuel : Nat) : Reading (List Expression) :=
  match fuel with
  | 0 => fail
  | fuel + 1 => do
    if ← takeWord "if" then
      let e ← readOr fuel
      pure (e :: (← readConditions fuel))
    else pure []

/-- The targets of a loop. -/
def readTargets (fuel : Nat) : Reading Expression :=
  match fuel with
  | 0 => fail
  | fuel + 1 => do
    let first ← readTarget fuel
    if ← isOp "," then pure (.tuple (first :: (← readMoreTargets fuel))) else pure first

def readMoreTargets (fuel : Nat) : Reading (List Expression) :=
  match fuel with
  | 0 => fail
  | fuel + 1 => do
    if ← takeOp "," then
      if ← isWord "in" then pure []
      else
        let e ← readTarget fuel
        pure (e :: (← readMoreTargets fuel))
    else pure []

def readTarget (fuel : Nat) : Reading Expression :=
  match fuel with
  | 0 => fail
  | fuel + 1 => do
    if ← takeOp "*" then pure (.starred (← readTarget fuel))
    else
      let e ← readAtom fuel
      let e ← readTrailers fuel e
      match badTarget e with
      | none => pure e
      | some b => problem ("cannot assign to " ++ describeExpression b)

/-- An item of a display. -/
def readItem (fuel : Nat) : Reading Expression :=
  match fuel with
  | 0 => fail
  | fuel + 1 => do
    if ← takeOp "*" then pure (.starred (← readBinary fuel operatorLevels)) else readNamed fuel

/-- The items of a display after the first, up to a closing token. -/
def readItems (fuel : Nat) (close : String) : Reading (List Expression) :=
  match fuel with
  | 0 => fail
  | fuel + 1 => do
    if ← takeOp "," then
      if ← isOp close then pure []
      else
        let e ← readItem fuel
        pure (e :: (← readItems fuel close))
    else if ← isOp close then pure []
    else commaForgotten

def readEntry (fuel : Nat) : Reading DictEntry :=
  match fuel with
  | 0 => fail
  | fuel + 1 => do
    if ← takeOp "**" then pure (.unpack (← readBinary fuel operatorLevels))
    else
      let key ← readExpression fuel
      if !(← takeOp ":") then
        if (← isOp ",") || (← isOp "\x7d") then problem "':' expected after dictionary key" else fail
      if ← isOp "\x7d" then problem "expression expected after dictionary key and ':'"
      else pure (.pair key (← readExpression fuel))

def readEntries (fuel : Nat) : Reading (List DictEntry) :=
  match fuel with
  | 0 => fail
  | fuel + 1 => do
    if ← takeOp "," then
      if ← isOp "\x7d" then pure []
      else
        let e ← readEntry fuel
        pure (e :: (← readEntries fuel))
    else pure []

def readAtom (fuel : Nat) : Reading Expression :=
  match fuel with
  | 0 => fail
  | fuel + 1 => do
    match (← peek) with
    | .int n => do advance; pure (.constant (.int n))
    | .float x => do advance; pure (.constant (.float x))
    | .text _ | .bytes _ | .format .. => readTexts fuel
    | .op "..." => do advance; pure (.constant .ellipsis)
    | .name "None" => do advance; pure (.constant .none)
    | .name "True" => do advance; pure (.constant (.truth true))
    | .name "False" => do advance; pure (.constant (.truth false))
    | .name _ => do pure (.name (← takeName))
    | .op "(" => do
      advance
      if ← takeOp ")" then pure (.tuple [])
      else
        let first ← readItem fuel
        let clauses ← readClauses fuel
        if !clauses.isEmpty then
          expectOp ")"
          pure (.comprehension .generator first Expression.absent clauses)
        else if ← isOp "," then
          let rest ← readItems fuel ")"
          expectOp ")"
          pure (.tuple (first :: rest))
        else if ← takeOp ")" then
          match first with
          | .starred _ => problem "cannot use starred expression here"
          | e => pure e
        else if ← isOp "=" then
          match first with
          | .name _ =>
            problem "invalid syntax. Maybe you meant '==' or ':=' instead of '='?"
          | e =>
            problem ("cannot assign to " ++ describeExpression e
              ++ " here. Maybe you meant '==' instead of '='?")
        else commaForgotten
    | .op "[" => do
      advance
      if ← takeOp "]" then pure (.list [])
      else
        let first ← readItem fuel
        let clauses ← readClauses fuel
        if !clauses.isEmpty then
          expectOp "]"
          pure (.comprehension .list first Expression.absent clauses)
        else
          let rest ← readItems fuel "]"
          expectOp "]"
          pure (.list (first :: rest))
    | .op "\x7b" => do
      advance
      if ← takeOp "\x7d" then pure (.dict [])
      else if ← isOp "**" then
        let first ← readEntry fuel
        let rest ← readEntries fuel
        expectOp "\x7d"
        pure (.dict (first :: rest))
      else
        let first ← readItem fuel
        if ← takeOp ":" then
          if ← isOp "\x7d" then problem "expression expected after dictionary key and ':'"
          else
            let value ← readExpression fuel
            let clauses ← readClauses fuel
            if !clauses.isEmpty then
              expectOp "\x7d"
              pure (.comprehension .dict first value clauses)
            else
              let rest ← readEntries fuel
              expectOp "\x7d"
              pure (.dict (.pair first value :: rest))
        else
          let clauses ← readClauses fuel
          if !clauses.isEmpty then
            expectOp "\x7d"
            pure (.comprehension .set first Expression.absent clauses)
          else
            let rest ← readItems fuel "\x7d"
            expectOp "\x7d"
            pure (.set (first :: rest))
    | _ => fail

/-- Adjacent texts. -/
def readTexts (fuel : Nat) : Reading Expression :=
  match fuel with
  | 0 => fail
  | fuel + 1 => do
    match (← peek) with
    | .bytes b => do
      advance
      match (← peek) with
      | .bytes _ | .text _ =>
        match (← readTexts fuel) with
        | .constant (.bytes c) => pure (.constant (.bytes (b ++ c)))
        | _ => problem "cannot mix bytes and nonbytes literals"
      | _ => pure (.constant (.bytes b))
    | .text t => do
      advance
      match (← peek) with
      | .text _ | .bytes _ | .format .. =>
        match (← readTexts fuel) with
        | .constant (.text u) => pure (.constant (.text (t ++ u)))
        | .format parts => pure (.format (.literal t :: parts))
        | _ => problem "cannot mix bytes and nonbytes literals"
      | _ => pure (.constant (.text t))
    | .format body raw => do
      match formatParts (body.length + 1) [] body with
      | .error message => problem message
      | .ok raws =>
        advance
        let parts ← readParts fuel raw raws
        match (← peek) with
        | .text _ | .bytes _ | .format .. =>
          match (← readTexts fuel) with
          | .constant (.text u) => pure (.format (parts ++ [.literal u]))
          | .format more => pure (.format (parts ++ more))
          | _ => problem "cannot mix bytes and nonbytes literals"
        | _ => pure (.format parts)
    | _ => fail

/-- The parts of a formatted text with their values read. -/
def readParts (fuel : Nat) (raw : Bool) (parts : List RawPart) : Reading (List FormatPart) :=
  match fuel with
  | 0 => fail
  | fuel + 1 =>
    match parts with
    | [] => pure []
    | .literal cs :: rest => do
      let points ← match raw, unescape true cs.length cs with
        | true, _ | _, .error _ => pure (cs.map Char.toNat)
        | false, .ok points => pure points
      pure (.literal ⟨points⟩ :: (← readParts fuel raw rest))
    | .value source conversion specification :: rest => do
      let outer ← get
      let inside := (tokens ('(' :: source ++ [')'])).toArray
      set { outer with tokens := inside, position := 0, furthest := 0 }
      let e ← tryCatch (readAtom fuel) fun
        | none => do
          set outer
          problem "f-string: invalid syntax"
        | some p => throw (some p)
      set outer
      pure (.value e conversion (String.ofList specification) :: (← readParts fuel raw rest))

end

/-- Expressions separated by commas. -/
def readExpressions (fuel : Nat) : Reading Expression := do
  let first ← readItem fuel
  if ← isOp "," then
    let rest ← more fuel
    pure (.tuple (first :: rest))
  else pure first
where
  /-- The expressions after the first. -/
  more : Nat → Reading (List Expression)
    | 0 => fail
    | n + 1 => do
      if ← takeOp "," then
        match (← peek) with
        | .newline | .finish | .op "=" | .op ")" | .op ":" | .op ";" => pure []
        | _ => do
          let e ← readItem fuel
          pure (e :: (← more n))
      else pure []

end EmbeddedPython.Language
