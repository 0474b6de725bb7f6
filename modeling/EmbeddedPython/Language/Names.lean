import EmbeddedPython.Language.Tree

/-
  Bound names

  A name that a function binds anywhere is the function's own everywhere in it,
  unless the function declares it to be global or to belong to a function
  around it. A comprehension binds its targets for itself alone.
-/

namespace EmbeddedPython.Language

mutual

/-- The names that an expression binds when it is assigned to. -/
def Expression.targets : Expression → List String
  | .name n => [n]
  | .tuple items | .list items => Expression.targetsAll items
  | .starred e => e.targets
  | _ => []

def Expression.targetsAll : List Expression → List String
  | [] => []
  | e :: rest => e.targets ++ Expression.targetsAll rest

end

mutual

/-- The names that an expression binds when it is evaluated. -/
def Expression.bindings : Expression → List String
  | .constant _ | .name _ | .lambda .. => []
  | .tuple items | .list items | .set items => Expression.bindingsAll items
  | .dict entries => DictEntry.bindingsAll entries
  | .unary _ e | .not e | .attribute e _ | .starred e => e.bindings
  | .binary _ a b | .and a b | .or a b | .subscript a b => a.bindings ++ b.bindings
  | .compare first rest => first.bindings ++ Link.bindingsAll rest
  | .conditional a b c | .slice a b c => a.bindings ++ b.bindings ++ c.bindings
  | .call f arguments => f.bindings ++ Argument.bindingsAll arguments
  | .comprehension _ element value clauses =>
    element.bindings ++ value.bindings ++ Clause.bindingsAll clauses
  | .bind n e => n :: e.bindings
  | .format parts => FormatPart.bindingsAll parts

def Expression.bindingsAll : List Expression → List String
  | [] => []
  | e :: rest => e.bindings ++ Expression.bindingsAll rest

def DictEntry.bindingsAll : List DictEntry → List String
  | [] => []
  | .pair a b :: rest => a.bindings ++ b.bindings ++ DictEntry.bindingsAll rest
  | .unpack e :: rest => e.bindings ++ DictEntry.bindingsAll rest

def Link.bindingsAll : List Link → List String
  | [] => []
  | .link _ e :: rest => e.bindings ++ Link.bindingsAll rest

def Argument.bindingsAll : List Argument → List String
  | [] => []
  | .positional e :: rest | .starred e :: rest | .keyword _ e :: rest | .mapping e :: rest =>
    e.bindings ++ Argument.bindingsAll rest

def Clause.bindingsAll : List Clause → List String
  | [] => []
  | .over _ source conditions :: rest =>
    source.bindings ++ Expression.bindingsAll conditions ++ Clause.bindingsAll rest

def FormatPart.bindingsAll : List FormatPart → List String
  | [] => []
  | .literal _ :: rest => FormatPart.bindingsAll rest
  | .value e _ _ :: rest => e.bindings ++ FormatPart.bindingsAll rest

end

/-- The names that the clauses of a comprehension bind. -/
def Clause.targetsAll : List Clause → List String
  | [] => []
  | .over target _ _ :: rest => target.targets ++ Clause.targetsAll rest

mutual

/-- The names that a statement binds. -/
def Statement.bindings : Statement → List String
  | .expression e | .ret e | .raise e => e.bindings
  | .assign targets value => Expression.targetsAll targets ++ value.bindings
  | .augment target _ value => target.targets ++ value.bindings
  | .delete targets => Expression.targetsAll targets
  | .conditional test body orElse | .repeatWhile test body orElse =>
    test.bindings ++ Statement.bindingsAll body ++ Statement.bindingsAll orElse
  | .loop target source body orElse =>
    target.targets ++ source.bindings ++ Statement.bindingsAll body
      ++ Statement.bindingsAll orElse
  | .attempt body handlers orElse final =>
    Statement.bindingsAll body ++ Handler.bindingsAll handlers ++ Statement.bindingsAll orElse
      ++ Statement.bindingsAll final
  | .define name .. | .defineClass name .. => [name]
  | .importModule _ binding _ => [binding]
  | .importFrom _ names => names.map (·.2)
  | _ => []

def Statement.bindingsAll : List Statement → List String
  | [] => []
  | s :: rest => s.bindings ++ Statement.bindingsAll rest

def Handler.bindingsAll : List Handler → List String
  | [] => []
  | .all body :: rest => Statement.bindingsAll body ++ Handler.bindingsAll rest
  | .of _ binding body :: rest =>
    binding.toList ++ Statement.bindingsAll body ++ Handler.bindingsAll rest

end

mutual

/-- The names that a statement declares to be global, and those that it declares to belong to a
function around it. -/
def Statement.declarations : Statement → List String × List String
  | .global names => (names, [])
  | .nonlocal names => ([], names)
  | .conditional _ body orElse | .repeatWhile _ body orElse | .loop _ _ body orElse =>
    let a := Statement.declarationsAll body
    let b := Statement.declarationsAll orElse
    (a.1 ++ b.1, a.2 ++ b.2)
  | .attempt body handlers orElse final =>
    let a := Statement.declarationsAll body
    let b := Handler.declarationsAll handlers
    let c := Statement.declarationsAll orElse
    let d := Statement.declarationsAll final
    (a.1 ++ b.1 ++ c.1 ++ d.1, a.2 ++ b.2 ++ c.2 ++ d.2)
  | _ => ([], [])

def Statement.declarationsAll : List Statement → List String × List String
  | [] => ([], [])
  | s :: rest =>
    let a := s.declarations
    let b := Statement.declarationsAll rest
    (a.1 ++ b.1, a.2 ++ b.2)

def Handler.declarationsAll : List Handler → List String × List String
  | [] => ([], [])
  | .all body :: rest | .of _ _ body :: rest =>
    let a := Statement.declarationsAll body
    let b := Handler.declarationsAll rest
    (a.1 ++ b.1, a.2 ++ b.2)

end

end EmbeddedPython.Language
