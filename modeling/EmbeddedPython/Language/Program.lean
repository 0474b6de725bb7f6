import EmbeddedPython.Language.Grammar

/-
  Programs

  A program is one expression, or a list of statements. A block stands on the
  line of its header or indented below it. Of the problems that a program has,
  the one is reported that the reading met first, unless what follows cannot
  even be split into tokens.
-/

namespace EmbeddedPython.Language

open Reading

/-! Targets -/

/-- Whether an expression that cannot be assigned to looks like a comparison with a sign missing. -/
def looksCompared : Expression → Bool
  | .tuple _ | .list _ | .comprehension .generator .. | .compare .. | .not _ | .and .. | .or ..
  | .conditional .. | .lambda .. | .starred _ | .constant .none | .constant (.truth _) => false
  | _ => true

/-- Checks the targets of an assignment. -/
def checkTargets (targets : List Expression) : Reading Unit := do
  match targets.find? fun e => (badTarget e).isSome with
  | none =>
    if targets.any fun e => match e with
        | .starred _ => true
        | _ => false
    then noteLate "starred assignment target must be in a list or tuple"
  | some e =>
    if targets.length = 1 && looksCompared e then
      problem ("cannot assign to " ++ describeExpression e
        ++ " here. Maybe you meant '==' instead of '='?")
    else problem ("cannot assign to " ++ describeExpression ((badTarget e).getD e))

/-- The operators that change their target. -/
def augmentedOperators : List (String × BinaryOperator) := [
  ("+=", .add), ("-=", .sub), ("*=", .mul), ("/=", .div), ("//=", .floorDiv), ("%=", .mod),
  ("**=", .pow), ("<<=", .lshift), (">>=", .rshift), ("&=", .bitAnd), ("|=", .bitOr),
  ("^=", .bitXor), ("@=", .matMul)]

/-! Statements of one line -/

/-- The problem of a name followed by what should be its argument. -/
def checkCallForm (fuel : Nat) (e : Expression) : Reading Unit := do
  match e with
  | .name n =>
    if n == "print" || n == "exec" then
      match (← attempt (readExpressions fuel)) with
      | some _ =>
        problem ("Missing parentheses in call to '" ++ n ++ "'. Did you mean " ++ n ++ "(...)?")
      | none => pure ()
  | _ => pure ()

/-- An expression that may be handed out of a function, which only a function can do. -/
def readYielded (fuel : Nat) : Reading Expression := do
  if (← isWord "yield") && (← get).functions = 0 then
    noteLate "'yield' outside function"
    advance
    match (← peek) with
    | .newline | .finish => pure Expression.absent
    | _ => readExpressions fuel
  else readExpressions fuel

/-- The values after the first sign of assignment; the last is the one that is assigned. -/
def readAssigned (fuel : Nat) : Nat → Reading (List Expression)
  | 0 => fail
  | n + 1 => do
    let e ← readYielded fuel
    checkCallForm fuel e
    if ← takeOp "=" then pure (e :: (← readAssigned fuel n)) else pure [e]

/-- A dotted name, with its first part. -/
def readDotted : Nat → Reading (String × String)
  | 0 => fail
  | n + 1 => do
    let first ← takeName
    if ← takeOp "." then
      let (_, rest) ← readDotted n
      pure (first, first ++ "." ++ rest)
    else pure (first, first)

def readImports : Nat → Reading (List Statement)
  | 0 => fail
  | n + 1 => do
    let (first, whole) ← readDotted (n + 1)
    let s : Statement ← if ← takeWord "as" then do pure (.importModule whole (← takeName) true)
      else pure (.importModule whole first false)
    if ← takeOp "," then pure (s :: (← readImports n)) else pure [s]

def readImportedNames (parenthesized : Bool) : Nat → Reading (List (String × String))
  | 0 => fail
  | n + 1 => do
    if parenthesized && (← isOp ")") then pure []
    else
      let name ← takeName
      let binding ← if ← takeWord "as" then takeName else pure name
      if ← takeOp "," then pure ((name, binding) :: (← readImportedNames parenthesized n))
      else pure [(name, binding)]

def readNames : Nat → Reading (List String)
  | 0 => fail
  | n + 1 => do
    let name ← takeName
    if ← takeOp "," then pure (name :: (← readNames n)) else pure [name]

/-- The problem of a value with a star. -/
def checkUnstarred (e : Expression) : Reading Unit := do
  match e with
  | .starred _ => noteLate "can't use starred expression here"
  | _ => pure ()

/-- A statement that begins with an expression. -/
def readExpressionStatement (fuel : Nat) : Reading Statement := do
  let e ← readYielded fuel
  match (← peek) with
  | .op "=" =>
    advance
    let rest ← readAssigned fuel fuel
    let targets := e :: rest.dropLast
    checkTargets targets
    let value := rest.getLastD Expression.absent
    checkUnstarred value
    pure (.assign targets value)
  | .op ":" =>
    match e with
    | .name _ | .attribute .. | .subscript .. =>
      advance
      let _ ← readExpression fuel
      if ← takeOp "=" then pure (.assign [e] (← readExpressions fuel)) else pure .pass
    | .tuple _ => problem "only single target (not tuple) can be annotated"
    | .list _ => problem "only single target (not list) can be annotated"
    | _ => problem "illegal target for annotation"
  | .op s =>
    match augmentedOperators.lookup s with
    | some op =>
      match e with
      | .name _ | .attribute .. | .subscript .. =>
        advance
        pure (.augment e op (← readExpressions fuel))
      | e =>
        problem ("'" ++ describeExpression e
          ++ "' is an illegal expression for augmented assignment")
    | none => pure (.expression e)
  | _ => do
    checkCallForm fuel e
    checkUnstarred e
    pure (.expression e)

/-- Whether the statement ends here. -/
def atEnd : Reading Bool := do
  match (← peek) with
  | .newline | .finish => pure true
  | .op s => pure (s == ";")
  | _ => pure false

def readRaise (fuel : Nat) : Reading Statement := do
  if ← atEnd then pure .raiseAgain
  else
    let e ← readExpression fuel
    if ← takeWord "from" then pure (.raiseFrom e (← readExpression fuel)) else pure (.raise e)

def readDelete (fuel : Nat) : Reading Statement := do
  let e ← readExpressions fuel
  let targets := match e with
    | .tuple items => items
    | e => [e]
  match badTargets (targets.map fun e => match e with
    | .starred _ => .set []
    | e => e) with
  | some (.set []) => problem "cannot delete starred"
  | some b => problem ("cannot delete " ++ describeExpression b)
  | none => pure (.delete targets)

/-- One statement that is no block; an import of several modules is several statements. -/
def readSimple (fuel : Nat) : Reading (List Statement) := do
  if ← takeWord "pass" then pure [.pass]
  else if ← isWord "break" then
    if (← get).loops = 0 then noteLate "'break' outside loop"
    advance
    pure [.stop]
  else if ← isWord "continue" then
    if (← get).loops = 0 then noteLate "'continue' not properly in loop"
    advance
    pure [.next]
  else if ← isWord "return" then
    if (← get).functions = 0 then noteLate "'return' outside function"
    advance
    if ← atEnd then pure [.ret Expression.absent] else do pure [.ret (← readExpressions fuel)]
  else if ← takeWord "raise" then do pure [← readRaise fuel]
  else if ← takeWord "del" then do pure [← readDelete fuel]
  else if ← takeWord "import" then readImports fuel
  else if ← takeWord "from" then
    let (_, module) ← readDotted fuel
    expectWord "import"
    let parenthesized ← takeOp "("
    let names ← readImportedNames parenthesized fuel
    if parenthesized then expectOp ")"
    pure [.importFrom module names]
  else if ← takeWord "global" then do pure [.global (← readNames fuel)]
  else if ← isWord "nonlocal" then
    if (← get).functions = 0 then noteLate "nonlocal declaration not allowed at module level"
    advance
    pure [.nonlocal (← readNames fuel)]
  else if ← takeWord "assert" then
    let test ← readExpression fuel
    if ← takeOp "," then pure [.assert test (← readExpression fuel) true]
    else pure [.assert test Expression.absent false]
  else do pure [← readExpressionStatement fuel]

/-- The statements of a line. -/
def readLine (fuel : Nat) : Nat → Reading (List Statement)
  | 0 => fail
  | n + 1 => do
    let first ← readSimple fuel
    if ← takeOp ";" then
      match (← peek) with
      | .newline => do
        advance
        pure first
      | _ => do pure (first ++ (← readLine fuel n))
    else
      match (← peek) with
      | .newline => do
        advance
        pure first
      | _ => fail

/-! Blocks -/

/-- The test of a statement with a block. -/
def readTest (fuel : Nat) : Reading Expression := do
  let e ← readNamed fuel
  if ← isOp "=" then
    match e with
    | .name _ => problem "invalid syntax. Maybe you meant '==' or ':=' instead of '='?"
    | e =>
      if looksCompared e then
        problem ("cannot assign to " ++ describeExpression e
          ++ " here. Maybe you meant '==' instead of '='?")
      else fail
  else pure e

def expectColon : Reading Unit := do
  if !(← takeOp ":") then problem "expected ':'"

/-- The problem of a parameter that has the name of an earlier one. -/
def checkParameters (s : Signature) : Reading Unit := do
  let names := s.names
  match (names.zipIdx.find? fun p => (names.take p.2).contains p.1) with
  | some (n, _) => noteLate ("duplicate argument '" ++ n ++ "' in function definition")
  | none => pure ()

/-- Reads something inside a function, or outside of every loop. -/
def within {α : Type} (functions loops : Nat → Nat) (body : Reading α) : Reading α := do
  let before ← get
  set { before with functions := functions before.functions, loops := loops before.loops }
  let r ← body
  modify fun s => { s with functions := before.functions, loops := before.loops }
  pure r

mutual

/-- The block of a header of a line. -/
def readBlock (fuel : Nat) (what : String) (header : Nat) : Reading (List Statement) :=
  match fuel with
  | 0 => fail
  | fuel + 1 => do
    match (← peek) with
    | .newline => do
      let before ← line
      advance
      match (← peek) with
      | .indent => do
        advance
        readStatements fuel true
      | token => do
        let place ← match token with
          | .finish | .dedent => pure before
          | _ => line
        throw (some ⟨true, "expected an indented block after " ++ what ++ " on line "
          ++ toString header, place⟩)
    | _ => readLine fuel fuel

/-- Statements up to the end of the block, or of the program. -/
def readStatements (fuel : Nat) (inBlock : Bool) : Reading (List Statement) :=
  match fuel with
  | 0 => fail
  | fuel + 1 => do
    match (← peek) with
    | .finish => if inBlock then fail else pure []
    | .dedent =>
      if inBlock then
        advance
        pure []
      else fail
    | _ => do
      let first ← readStatement fuel
      pure (first ++ (← readStatements fuel inBlock))

def readStatement (fuel : Nat) : Reading (List Statement) :=
  match fuel with
  | 0 => fail
  | fuel + 1 => do
    let header ← line
    match (← peek) with
    | .name "if" => do
      advance
      pure [← readConditional fuel "'if' statement" header]
    | .name "while" => do
      advance
      let test ← readTest fuel
      expectColon
      let body ← within id (· + 1) (readBlock fuel "'while' statement" header)
      pure [.repeatWhile test body (← readElse fuel)]
    | .name "for" => do
      advance
      let target ← readTargets fuel
      expectWord "in"
      let source ← readExpressions fuel
      expectColon
      let body ← within id (· + 1) (readBlock fuel "'for' statement" header)
      pure [.loop target source body (← readElse fuel)]
    | .name "try" => do
      advance
      expectColon
      let body ← readBlock fuel "'try' statement" header
      let handlers ← readHandlers fuel
      let orElse ← if handlers.isEmpty then pure [] else readElse fuel
      let place ← line
      if ← takeWord "finally" then
        expectColon
        let final ← readBlock fuel "'finally' statement" place
        pure [.attempt body handlers orElse final]
      else if handlers.isEmpty then
        -- the line of the last token of the block
        let s ← get
        let place := ((s.tokens[s.position - 1]?).map (·.line)).getD place
        throw (some ⟨false, "expected 'except' or 'finally' block", place⟩)
      else pure [.attempt body handlers orElse []]
    | .name "def" => do pure [← readDefinition fuel []]
    | .name "class" => do pure [← readDefinition fuel []]
    | .op "@" => do
      let decorators ← readDecorators fuel
      match (← peek) with
      | .name "def" | .name "class" => do pure [← readDefinition fuel decorators]
      | _ => fail
    | _ => readLine fuel fuel

/-- A condition after its first word. -/
def readConditional (fuel : Nat) (what : String) (header : Nat) : Reading Statement :=
  match fuel with
  | 0 => fail
  | fuel + 1 => do
    let test ← readTest fuel
    expectColon
    let body ← readBlock fuel what header
    let place ← line
    if ← takeWord "elif" then
      pure (.conditional test body [← readConditional fuel "'elif' statement" place])
    else pure (.conditional test body (← readElse fuel))

def readElse (fuel : Nat) : Reading (List Statement) :=
  match fuel with
  | 0 => fail
  | fuel + 1 => do
    let place ← line
    if ← takeWord "else" then
      expectColon
      readBlock fuel "'else' statement" place
    else pure []

def readHandlers (fuel : Nat) : Reading (List Handler) :=
  match fuel with
  | 0 => fail
  | fuel + 1 => do
    let place ← line
    if ← takeWord "except" then
      if ← takeOp ":" then
        let body ← readBlock fuel "'except' statement" place
        pure (.all body :: (← readHandlers fuel))
      else
        let cls ← readExpression fuel
        if ← isOp "," then problem "multiple exception types must be parenthesized"
        let binding ← if ← takeWord "as" then do pure (some (← takeName)) else pure none
        expectColon
        let body ← readBlock fuel "'except' statement" place
        pure (.of cls binding body :: (← readHandlers fuel))
    else pure []

def readDecorators (fuel : Nat) : Reading (List Expression) :=
  match fuel with
  | 0 => fail
  | fuel + 1 => do
    if ← takeOp "@" then
      let e ← readNamed fuel
      match (← peek) with
      | .newline => do
        advance
        pure (e :: (← readDecorators fuel))
      | _ => fail
    else pure []

/-- A definition of a function or a class. -/
def readDefinition (fuel : Nat) (decorators : List Expression) : Reading Statement :=
  match fuel with
  | 0 => fail
  | fuel + 1 => do
    let header ← line
    if ← takeWord "def" then
      let name ← takeName
      if !(← takeOp "(") then problem "expected '('"
      let (signature, defaults) ← readParameters fuel ")"
      expectOp ")"
      checkParameters signature
      if ← takeOp "->" then
        let _ ← readExpression fuel
      expectColon
      let body ← within (· + 1) (fun _ => 0) (readBlock fuel "function definition" header)
      pure (.define name signature defaults body decorators)
    else
      expectWord "class"
      let name ← takeName
      let bases ← if ← takeOp "(" then do
          let arguments ← readArguments fuel true
          expectOp ")"
          pure (arguments.filterMap fun a => match a with
            | .positional e => some e
            | _ => none)
        else pure []
      expectColon
      let body ← within (fun _ => 0) (fun _ => 0) (readBlock fuel "class definition" header)
      pure (.defineClass name bases body decorators)

end

/-! Programs -/

/-- One expression, or several separated by commas, and nothing after them. -/
def readValue (fuel : Nat) : Reading Expression := do
  let first ← readExpression fuel
  checkCallForm fuel first
  let e ← if ← isOp "," then do pure (.tuple (first :: (← more fuel))) else pure first
  skipLines fuel
  match (← peek) with
  | .finish => pure e
  | _ => fail
where
  /-- The expressions after the first. -/
  more : Nat → Reading (List Expression)
    | 0 => fail
    | n + 1 => do
      if ← takeOp "," then
        match (← peek) with
        | .newline | .finish => pure []
        | _ => do
          let e ← readExpression fuel
          pure (e :: (← more n))
      else pure []
  /-- The ends of lines. -/
  skipLines : Nat → Reading Unit
    | 0 => pure ()
    | n + 1 => do
      match (← peek) with
      | .newline => do
        advance
        skipLines n
      | _ => pure ()

/-- The problem of a reading that failed. -/
def explain (s : Reader) (own : Option Problem) : Problem :=
  let reached : Located := s.tokens[min s.furthest (s.tokens.size - 1)]?.getD ⟨.finish, 0⟩
  let indented := match own, reached.token with
    | none, .indent => some "unexpected indent"
    | none, .dedent => some "unexpected unindent"
    | _, _ => none
  match indented with
  | some message => ⟨true, message, reached.line⟩
  | none =>
    let found := own.getD (Problem.invalid reached.line)
    match s.tokens.back? with
    | some ⟨.bad p unclosed, _⟩ =>
      if !unclosed || s.tokens.size ≤ s.furthest + 1 || p.line < reached.line then p else found
    | _ => found

/-- Reads all tokens of a program. -/
def readAll {α : Type} (source : String) (body : Nat → Reading α) : Except Problem α :=
  let found := (tokens source.toList).toArray
  let fuel := 32 * (found.size + 2)
  match (body fuel).run ⟨found, 0, 0, 0, 0, none⟩ with
  | (.ok r, s) =>
    match s.late with
    | none => .ok r
    | some p => .error p
  | (.error own, s) => .error (explain s own)

/-- The expression that a program is. -/
def Expression.ofSource (source : String) : Except Problem Expression :=
  readAll source readValue

/-- The statements that a program is. -/
def Statement.ofSource (source : String) : Except Problem (List Statement) :=
  let closed := if source.endsWith "\n" then source else source ++ "\n"
  readAll closed fun fuel => readStatements fuel false

end EmbeddedPython.Language
