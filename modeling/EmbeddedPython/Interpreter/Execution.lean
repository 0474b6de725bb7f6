import EmbeddedPython.Interpreter.Formatting
import EmbeddedPython.Language.Names
import EmbeddedPython.Language.Program
import EmbeddedPython.Object.Functions

/-
  Running programs

  Expressions have values and statements have effects. A name is looked up
  among the names of the function, of the functions around it, of the program,
  and among the built-in names.
-/

namespace EmbeddedPython

open EmbeddedPython.Language

/-- How a statement ended. -/
inductive Flow where
  | normal
  | returned (r : Ref)
  | stopped
  | skipped
  deriving Inhabited

namespace Eval

/-- Runs a computation; an exception is a value of the result. -/
def caught {α : Type} (body : Eval α) : Eval (Except Ref α) :=
  tryCatch (do pure (.ok (← body))) fun e => pure (.error e)

/-! Names -/

def namesIn (cell : Ref) : Eval (List (String × Ref)) := do
  match (← valueOf cell) with
  | .names bindings => pure bindings
  | _ => pure []

def bindIn (cell : Ref) (name : String) (value : Ref) : Eval Unit := do
  setValue cell (.names (withName (← namesIn cell) name value))

/-- The value of a name in the functions around a scope. -/
def enclosingName (name : String) : List Ref → Eval (Option Ref)
  | [] => pure none
  | cell :: rest => do
    match (← namesIn cell).lookup name with
    | some r => pure (some r)
    | none => enclosingName name rest

def notDefined {α : Type} (name : String) : Eval α :=
  raise .nameError ("name '" ++ name ++ "' is not defined")

/-- The value of a name among those of the program and the built-in ones. -/
def globalName (scope : Scope) (name : String) : Eval Ref := do
  match lookupText (← memory) (← entriesOf scope.globals) name with
  | some r => pure r
  | none =>
    match builtinNamed? name with
    | some r => pure r
    | none => if name == "__name__" then newString "builtins" else notDefined name

/-- The value of a name. -/
def readName (scope : Scope) (name : String) : Eval Ref := do
  if scope.declared.contains name then globalName scope name
  else
    let own ← match scope.locals with
      | some cell => do pure ((← namesIn cell).lookup name)
      | none => pure none
    match own with
    | some r => pure r
    | none =>
      if scope.locals.isSome && !scope.inClass && scope.bound.contains name then
        raise .unboundLocalError ("cannot access local variable '" ++ name
          ++ "' where it is not associated with a value")
      else
        match (← enclosingName name scope.enclosing) with
        | some r => pure r
        | none => globalName scope name

def setGlobal (m : Machine) (scope : Scope) (name : String) (value : Ref) : Eval Unit := do
  setKey m scope.globals (← newString name) value

/-- The nearest of the functions around a scope that has a name. -/
def holderOf (name : String) : List Ref → Eval (Option Ref)
  | [] => pure none
  | cell :: rest => do
    if ((← namesIn cell).lookup name).isSome then pure (some cell) else holderOf name rest

/-- Binds a name. -/
def bindName (m : Machine) (scope : Scope) (name : String) (value : Ref) : Eval Unit := do
  if scope.declared.contains name then setGlobal m scope name value
  else
    match scope.locals with
    | none => setGlobal m scope name value
    | some cell =>
      if scope.inClass || scope.bound.contains name then bindIn cell name value
      else
        match (← holderOf name scope.enclosing) with
        | some cell => bindIn cell name value
        | none =>
          match scope.enclosing with
          | cell :: _ => bindIn cell name value
          | [] => setGlobal m scope name value

/-- Takes away the binding of a name. -/
def unbindName (m : Machine) (scope : Scope) (name : String) : Eval Unit := do
  match (if scope.declared.contains name then none else scope.locals) with
  | some cell =>
    let bindings ← namesIn cell
    if (bindings.lookup name).isSome then
      setValue cell (.names (bindings.filter (·.1 != name)))
    else
      raise .unboundLocalError ("cannot access local variable '" ++ name
        ++ "' where it is not associated with a value")
  | none =>
    match (← lookupKey m (← entriesOf scope.globals) (← newString name)) with
    | some e => setValue scope.globals (.dict (withoutEntry (← entriesOf scope.globals) e))
    | none => notDefined name

/-- The scope of a comprehension. -/
def innerScope (scope : Scope) (bound : List String) : Eval Scope := do
  let cell ← make .function (.names [])
  pure { scope with
    locals := some cell
    enclosing := (if scope.inClass then [] else scope.locals.toList) ++ scope.enclosing
    bound := bound
    inClass := false }

/-! Unpacking -/

def isStarred : Expression → Bool
  | .starred _ => true
  | _ => false

/-- The values for a number of targets, of which one may take any number of values. -/
def unpacked (m : Machine) (targets : List Expression) (value : Ref) : Eval (List Ref) := do
  let iterable := (← special value "__iter__").isSome || (← isSequence value)
  if !iterable then
    typeError ("cannot unpack non-iterable " ++ (← typeName value) ++ " object")
  else
    let items ← iterate m value
    let wanted := targets.length
    match targets.findIdx? isStarred with
    | none =>
      if items.length < wanted then
        valueError ("not enough values to unpack (expected " ++ toString wanted ++ ", got "
          ++ toString items.length ++ ")")
      else if wanted < items.length then
        valueError ("too many values to unpack (expected " ++ toString wanted ++ ")")
      else pure items
    | some i =>
      let after := wanted - i - 1
      if items.length < i + after then
        valueError ("not enough values to unpack (expected at least " ++ toString (i + after)
          ++ ", got " ++ toString items.length ++ ")")
      else
        let middle ← newList ((items.drop i).take (items.length - i - after))
        pure (items.take i ++ middle :: items.drop (items.length - after))

/-! Calls -/

/-- What a function is called in errors about its arguments. -/
def functionText (m : Machine) (f : Ref) : Eval String := do
  match (← getAttr? m f "__qualname__") with
  | some n =>
    match (← valueOf n) with
    | .text t => pure (t.toStringLossy ++ "()")
    | _ => pure ((← m.str f).toStringLossy)
  | none => do pure (← m.str f).toStringLossy

/-- The entries of a mapping that is handed over as keywords. -/
def mappingEntries (m : Machine) (f r : Ref) : Eval (List (Text × Ref)) := do
  let pairs : List (Ref × Ref) ← match (← valueOf r) with
    | .dict entries => pure (entries.map fun e => (e.key, e.value))
    | _ =>
      match (← getAttr? m r "keys") with
      | none =>
        typeError ((← functionText m f) ++ " argument after ** must be a mapping, not "
          ++ (← typeName r))
      | some keys => do
        (← iterate m (← m.call keys [] [])).mapM fun k => do pure (k, ← getItem m r k)
  pairs.mapM fun p => do
    match (← valueOf p.1) with
    | .text t => pure (t, p.2)
    | _ => typeError "keywords must be strings"

/-- The keywords with some more; none may be there already. -/
def withKeywords (m : Machine) (f : Ref) (keywords more : List (Text × Ref)) :
    Eval (List (Text × Ref)) := do
  match more.find? fun k => keywords.any fun l => l.1 == k.1 with
  | some k =>
    raise .typeError (Text.ofString (← functionText m f)
      ++ " got multiple values for keyword argument '" ++ k.1 ++ "'")
  | none => pure (keywords ++ more)

/-! Operators of chains -/

def related (m : Machine) (r : Relation) (a b : Ref) : Eval Ref :=
  match r with
  | .rich c => m.compare c a b
  | .is => newBool (a == b)
  | .isNot => newBool (a != b)
  | .member => do newBool (← contains m b a)
  | .notMember => do newBool !(← contains m b a)

def constant : Constant → Eval Ref
  | .none => pure Ref.none
  | .truth b => newBool b
  | .ellipsis => pure (.static .ellipsis)
  | .int n => newInt n
  | .float x => newFloat x
  | .text t => newText t
  | .bytes b => newBytes b

/-- Makes a function of the program. -/
def newCode (name : String) (signature : Signature) (defaults : List Ref × List (String × Ref))
    (body : FunctionBody) : Eval Ref :=
  make .function (.function ⟨name, signature, defaults.1, defaults.2, body⟩)

/-- The scope that a definition keeps for its function. -/
def closureScope (scope : Scope) : Scope :=
  if scope.inClass then { scope with locals := none, inClass := false } else scope

mutual

/-- The value of an expression. -/
def evaluate (m : Machine) (scope : Scope) : Expression → Eval Ref
  | .constant c => constant c
  | .name n => readName scope n
  | .tuple items => do newTuple (← evaluateItems m scope items)
  | .list items => do newList (← evaluateItems m scope items)
  | .set items => do make .set (.set (← itemsFrom m (← evaluateItems m scope items)))
  | .dict entries => do newDict m (← evaluateEntries m scope entries)
  | .unary op e => do unary m op (← evaluate m scope e)
  | .not e => do newBool !(← truth m (← evaluate m scope e))
  | .binary op a b => do
    let a ← evaluate m scope a
    let b ← evaluate m scope b
    binary m (formatPercent m) op a b
  | .compare first rest => do evaluateLinks m scope (← evaluate m scope first) rest
  | .and a b => do
    let a ← evaluate m scope a
    if ← truth m a then evaluate m scope b else pure a
  | .or a b => do
    let a ← evaluate m scope a
    if ← truth m a then pure a else evaluate m scope b
  | .conditional test body orElse => do
    if ← truth m (← evaluate m scope test) then evaluate m scope body else evaluate m scope orElse
  | .lambda signature defaults body => do
    let defaults ← evaluateDefaults m scope defaults
    newCode "<lambda>" signature defaults (.expression body (closureScope scope))
  | .call f arguments => do
    let f ← evaluate m scope f
    let (positional, keywords) ← evaluateArguments m scope f arguments
    m.call f positional keywords
  | .attribute e n => do getAttr m (← evaluate m scope e) n
  | .subscript e i => do
    let r ← evaluate m scope e
    let i ← evaluate m scope i
    getItem m r i
  | .slice a b c => do
    let a ← evaluate m scope a
    let b ← evaluate m scope b
    let c ← evaluate m scope c
    make .slice (.slice a b c)
  | .comprehension kind element value clauses => do
    let inner ← innerScope scope (Clause.targetsAll clauses)
    let pairs ← evaluateClauses m inner (do
      let a ← evaluate m inner element
      let b ← evaluate m inner value
      pure [(a, b)]) clauses
    match kind with
    | .list => newList (pairs.map (·.1))
    | .set => do make .set (.set (← itemsFrom m (pairs.map (·.1))))
    | .dict => newDict m pairs
    | .generator => make .generator (.cursor (.rest (pairs.map (·.1))))
  | .starred e => evaluate m scope e
  | .bind n e => do
    let r ← evaluate m scope e
    bindName m scope n r
    pure r
  | .format parts => do newText (← evaluateParts m scope parts)

/-- The values of expressions, those with a star taken apart. -/
def evaluateItems (m : Machine) (scope : Scope) : List Expression → Eval (List Ref)
  | [] => pure []
  | .starred e :: rest => do
    let r ← evaluate m scope e
    let iterable := (← special r "__iter__").isSome || (← isSequence r)
    if !iterable then
      typeError ("Value after * must be an iterable, not " ++ (← typeName r))
    else
      let items ← iterate m r
      pure (items ++ (← evaluateItems m scope rest))
  | e :: rest => do
    let r ← evaluate m scope e
    pure (r :: (← evaluateItems m scope rest))

def evaluateEntries (m : Machine) (scope : Scope) : List DictEntry → Eval (List (Ref × Ref))
  | [] => pure []
  | .pair a b :: rest => do
    let a ← evaluate m scope a
    let b ← evaluate m scope b
    pure ((a, b) :: (← evaluateEntries m scope rest))
  | .unpack e :: rest => do
    let r ← evaluate m scope e
    let pairs ← match (← valueOf r) with
      | .dict entries => pure (entries.map fun e => (e.key, e.value))
      | _ => typeError ("'" ++ (← typeName r) ++ "' object is not a mapping")
    pure (pairs ++ (← evaluateEntries m scope rest))

def evaluateLinks (m : Machine) (scope : Scope) (left : Ref) : List Link → Eval Ref
  | [] => pure (Ref.ofBool true)
  | [.link r e] => do related m r left (← evaluate m scope e)
  | .link r e :: rest => do
    let right ← evaluate m scope e
    let answer ← related m r left right
    if ← truth m answer then evaluateLinks m scope right rest else pure answer

/-- The arguments of a call of `f`. -/
def evaluateArguments (m : Machine) (scope : Scope) (f : Ref) :
    List Argument → Eval (List Ref × List (Text × Ref))
  | [] => pure ([], [])
  | .positional e :: rest => do
    let r ← evaluate m scope e
    let (positional, keywords) ← evaluateArguments m scope f rest
    pure (r :: positional, keywords)
  | .starred e :: rest => do
    let r ← evaluate m scope e
    let iterable := (← special r "__iter__").isSome || (← isSequence r)
    if !iterable then
      typeError ((← functionText m f) ++ " argument after * must be an iterable, not "
        ++ (← typeName r))
    else
      let items ← iterate m r
      let (positional, keywords) ← evaluateArguments m scope f rest
      pure (items ++ positional, keywords)
  | .keyword n e :: rest => do
    let r ← evaluate m scope e
    let (positional, keywords) ← evaluateArguments m scope f rest
    pure (positional, ← withKeywords m f [(Text.ofString n, r)] keywords)
  | .mapping e :: rest => do
    let more ← mappingEntries m f (← evaluate m scope e)
    let (positional, keywords) ← evaluateArguments m scope f rest
    pure (positional, ← withKeywords m f more keywords)

/-- The defaults of parameters: those that may be given by position, and the others. -/
def evaluateDefaults (m : Machine) (scope : Scope) :
    List Argument → Eval (List Ref × List (String × Ref))
  | [] => pure ([], [])
  | .keyword n e :: rest => do
    let r ← evaluate m scope e
    let (positional, named) ← evaluateDefaults m scope rest
    pure (positional, (n, r) :: named)
  | .positional e :: rest | .starred e :: rest | .mapping e :: rest => do
    let r ← evaluate m scope e
    let (positional, named) ← evaluateDefaults m scope rest
    pure (r :: positional, named)

/-- What the clauses of a comprehension gather. -/
def evaluateClauses (m : Machine) (scope : Scope) (emit : Eval (List (Ref × Ref))) :
    List Clause → Eval (List (Ref × Ref))
  | [] => emit
  | .over target source conditions :: rest => do
    let items ← iterate m (← evaluate m scope source)
    let parts ← items.mapM fun item => do
      assign m scope item target
      if ← evaluateConditions m scope conditions then evaluateClauses m scope emit rest
      else pure []
    pure parts.flatten

def evaluateConditions (m : Machine) (scope : Scope) : List Expression → Eval Bool
  | [] => pure true
  | e :: rest => do
    if ← truth m (← evaluate m scope e) then evaluateConditions m scope rest else pure false

def evaluateParts (m : Machine) (scope : Scope) : List FormatPart → Eval Text
  | [] => pure Text.empty
  | .literal t :: rest => do pure (t ++ (← evaluateParts m scope rest))
  | .value e conversion specification :: rest => do
    let r ← converted m conversion (← evaluate m scope e)
    let shown ← formatObject m r specification
    pure (shown ++ (← evaluateParts m scope rest))

/-- Assigns a value to a target. -/
def assign (m : Machine) (scope : Scope) (value : Ref) : Expression → Eval Unit
  | .name n => bindName m scope n value
  | .attribute e n => do setAttr m (← evaluate m scope e) n value
  | .subscript e i => do
    let r ← evaluate m scope e
    let i ← evaluate m scope i
    setItem m r i value
  | .tuple targets | .list targets => do
    assignAll m scope (← unpacked m targets value) targets
  | .starred e => assign m scope value e
  | _ => pure ()

def assignAll (m : Machine) (scope : Scope) (values : List Ref) : List Expression → Eval Unit
  | [] => pure ()
  | e :: rest => do
    assign m scope (values.headD Ref.none) e
    assignAll m scope values.tail rest

end

/-- Assigns a value to several targets. -/
def assignEach (m : Machine) (scope : Scope) (value : Ref) : List Expression → Eval Unit
  | [] => pure ()
  | e :: rest => do
    assign m scope value e
    assignEach m scope value rest

/-- Deletes a target. -/
def deleteTarget (m : Machine) (scope : Scope) : Expression → Eval Unit
  | .name n => unbindName m scope n
  | .attribute e n => do deleteAttr (← evaluate m scope e) n
  | .subscript e i => do
    let r ← evaluate m scope e
    deleteItem m r (← evaluate m scope i)
  | _ => pure ()

/-- Changes a target by an operator. -/
def augmentTarget (m : Machine) (scope : Scope) (op : BinaryOperator) (value : Expression) :
    Expression → Eval Unit
  | .attribute e n => do
    let r ← evaluate m scope e
    let before ← getAttr m r n
    let after ← augmented m (formatPercent m) op before (← evaluate m scope value)
    setAttr m r n after
  | .subscript e i => do
    let r ← evaluate m scope e
    let i ← evaluate m scope i
    let before ← getItem m r i
    let after ← augmented m (formatPercent m) op before (← evaluate m scope value)
    setItem m r i after
  | target => do
    let before ← evaluate m scope target
    let after ← augmented m (formatPercent m) op before (← evaluate m scope value)
    assign m scope after target

/-- Whether an exception is of a class, or of one of a tuple of classes. -/
def matchesClass (e cls : Ref) : Eval Bool := do
  let memory ← memory
  let classes := match memory.valueOf cls with
    | .tuple items => items
    | _ => [cls]
  let isException := fun c =>
    (memory.class? c).isSome && memory.isSubclass c (Ref.ofExceptionClass .baseException)
  if classes.all isException then pure (classes.any fun c => memory.isInstance e c)
  else typeError "catching classes that do not inherit from BaseException is not allowed"

/-- Imports a module; the answer is the module that the first part of the name is of. -/
def importTop (m : Machine) (name : String) : Eval Ref := do
  m.call (.static (.function "builtins" "__import__")) [← newString name] []

/-- The module of a whole name. -/
def importWhole (m : Machine) (name : String) : Eval Ref := do
  let top ← importTop m name
  ((name.splitOn ".").drop 1).foldlM (fun r part => getAttr m r part) top

def decorate (m : Machine) (r : Ref) (decorators : List Ref) : Eval Ref :=
  decorators.reverse.foldlM (fun r d => m.call d [r] []) r

/-- Runs a body for each item of an iterator. -/
def loopOver (m : Machine) (it : Ref) (body : Ref → Eval Flow) (orElse : Eval Flow) :
    Nat → Eval Flow
  | 0 => pure .normal
  | fuel + 1 => do
    match (← m.advance it) with
    | none => orElse
    | some item =>
      match (← body item) with
      | .normal | .skipped => loopOver m it body orElse fuel
      | .stopped => pure .normal
      | .returned r => pure (.returned r)

/-- Runs a body as long as a test holds. -/
def loopWhile (test : Eval Bool) (body orElse : Eval Flow) : Nat → Eval Flow
  | 0 => pure .normal
  | fuel + 1 => do
    if ← test then
      match (← body) with
      | .normal | .skipped => loopWhile test body orElse fuel
      | .stopped => pure .normal
      | .returned r => pure (.returned r)
    else orElse

mutual

/-- Runs a statement, inside the handler of an exception or not. -/
def execute (m : Machine) (scope : Scope) (handled : Option Ref) : Statement → Eval Flow
  | .expression e => do
    let _ ← evaluate m scope e
    pure .normal
  | .assign targets value => do
    assignEach m scope (← evaluate m scope value) targets
    pure .normal
  | .augment target op value => do
    augmentTarget m scope op value target
    pure .normal
  | .ret e => do pure (.returned (← evaluate m scope e))
  | .raise e => do raiseObject m (← evaluate m scope e)
  | .raiseFrom e cause => do
    let r ← evaluate m scope e
    let _ ← evaluate m scope cause
    raiseObject m r
  | .raiseAgain =>
    match handled with
    | some e => throw e
    | none => raise .runtimeError "No active exception to reraise"
  | .pass | .global _ | .nonlocal _ => pure .normal
  | .stop => pure .stopped
  | .next => pure .skipped
  | .delete targets => do
    targets.forM (deleteTarget m scope)
    pure .normal
  | .conditional test body orElse => do
    if ← truth m (← evaluate m scope test) then executeAll m scope handled body
    else executeAll m scope handled orElse
  | .loop target source body orElse => do
    let it ← iterator m (← evaluate m scope source)
    loopOver m it (fun item => do
      assign m scope item target
      executeAll m scope handled body) (executeAll m scope handled orElse) iterationBound
  | .repeatWhile test body orElse =>
    loopWhile (do truth m (← evaluate m scope test)) (executeAll m scope handled body)
      (executeAll m scope handled orElse) iterationBound
  | .attempt body handlers orElse final => do
    let outcome ← match (← caught (executeAll m scope handled body)) with
      | .ok .normal => caught (executeAll m scope handled orElse)
      | .ok flow => pure (.ok flow)
      | .error e => caught (executeHandlers m scope e handlers)
    match (← executeAll m scope handled final), outcome with
    | .normal, .ok flow => pure flow
    | .normal, .error e => throw e
    | flow, _ => pure flow
  | .assert test message hasMessage => do
    if ← truth m (← evaluate m scope test) then pure .normal
    else
      let arguments ← if hasMessage then do pure [← evaluate m scope message] else pure []
      throw (← newException .assertionError arguments)
  | .define name signature defaults body decorators => do
    let decorators ← evaluateItems m scope decorators
    let defaults ← evaluateDefaults m scope defaults
    let f ← newCode name signature defaults (.code body (closureScope scope))
    bindName m scope name (← decorate m f decorators)
    pure .normal
  | .defineClass name bases body decorators => do
    let decorators ← evaluateItems m scope decorators
    let bases ← evaluateItems m scope bases
    let cell ← make .function (.names [])
    let inner : Scope := { scope with
      locals := some cell
      enclosing := (if scope.inClass then [] else scope.locals.toList) ++ scope.enclosing
      bound := []
      declared := (Statement.declarationsAll body).1
      inClass := true }
    let _ ← executeAll m inner handled body
    let cls ← makeClass name bases (← namesIn cell)
    bindName m scope name (← decorate m cls decorators)
    pure .normal
  | .importModule name binding whole => do
    let r ← if whole then importWhole m name else importTop m name
    bindName m scope binding r
    pure .normal
  | .importFrom module names => do
    let r ← importWhole m module
    names.forM fun n => do
      match (← getAttr? m r n.1) with
      | some x => bindName m scope n.2 x
      | none =>
        raise .importError ("cannot import name '" ++ n.1 ++ "' from '" ++ module
          ++ "' (unknown location)")
    pure .normal

/-- Runs statements in order. -/
def executeAll (m : Machine) (scope : Scope) (handled : Option Ref) : List Statement → Eval Flow
  | [] => pure .normal
  | s :: rest => do
    match (← execute m scope handled s) with
    | .normal => executeAll m scope handled rest
    | flow => pure flow

/-- Runs the first handler that takes an exception. -/
def executeHandlers (m : Machine) (scope : Scope) (e : Ref) : List Handler → Eval Flow
  | [] => throw e
  | .all body :: _ => executeAll m scope (some e) body
  | .of cls binding body :: rest => do
    if ← matchesClass e (← evaluate m scope cls) then
      match binding with
      | none => executeAll m scope (some e) body
      | some n => do
        bindName m scope n e
        let outcome ← caught (executeAll m scope (some e) body)
        let _ ← caught (unbindName m scope n)
        match outcome with
        | .ok flow => pure flow
        | .error e => throw e
    else executeHandlers m scope e rest

end

/-- The scope of the body of a function with the arguments of a call. -/
def callScope (scope : Scope) (signature : Signature) (body : List Statement)
    (arguments : List (String × Ref)) : Eval Scope := do
  let cell ← make .function (.names arguments)
  let (globals, outer) := Statement.declarationsAll body
  let bound := (signature.names ++ Statement.bindingsAll body).filter fun n =>
    !globals.contains n && !outer.contains n
  pure {
    globals := scope.globals
    locals := some cell
    enclosing := scope.locals.toList ++ scope.enclosing
    bound := bound
    declared := globals
    inClass := false }

/-- Runs the body of a function of the program. -/
def runCode (m : Machine) (scope : Scope) (signature : Signature) (body : List Statement)
    (arguments : List (String × Ref)) : Eval Ref := do
  let inner ← callScope scope signature body arguments
  match (← executeAll m inner none body) with
  | .returned r => pure r
  | _ => pure Ref.none

/-- The value of the body of a function that is one expression. -/
def runExpression (m : Machine) (scope : Scope) (signature : Signature) (body : Expression)
    (arguments : List (String × Ref)) : Eval Ref := do
  let inner ← callScope scope signature [.expression body] arguments
  evaluate m inner body

/-- The scope of a program with a dictionary of names. -/
def topScope (globals : Ref) : Scope := ⟨globals, none, [], [], [], false⟩

/-- Raises the error of a program that cannot be read. -/
def raiseProblem {α : Type} (p : Problem) : Eval α := do
  let text ← newString p.message
  let file ← newString "<string>"
  let line ← newInt p.line
  let c := if p.isIndentation then ExceptionClass.indentationError else .syntaxError
  throw (← make (.exception c) (.exception [text] (.source text file line)))

/-- The value of a program that is an expression. -/
def evaluateSource (m : Machine) (globals : Ref) (source : String) : Eval Ref :=
  match Expression.ofSource source with
  | .ok e => evaluate m (topScope globals) e
  | .error p => raiseProblem p

/-- Runs a program of statements. -/
def executeSource (m : Machine) (globals : Ref) (source : String) : Eval Unit :=
  match Statement.ofSource source with
  | .ok body => do
    let _ ← executeAll m (topScope globals) none body
    pure ()
  | .error p => raiseProblem p

end Eval

end EmbeddedPython
