import EmbeddedPython.Text.Basic

/-
  Expressions and statements

  The part of the language that evaluation covers, as trees.
-/

namespace EmbeddedPython

/-- An order or equality that objects can be asked for. -/
inductive Comparison where
  | lt | le | eq | ne | gt | ge
  deriving DecidableEq, Repr, Inhabited

namespace Comparison

def spelling : Comparison → String
  | lt => "<"
  | le => "<="
  | eq => "=="
  | ne => "!="
  | gt => ">"
  | ge => ">="

/-- The comparison that holds with the operands exchanged. -/
def reflected : Comparison → Comparison
  | lt => gt
  | le => ge
  | eq => eq
  | ne => ne
  | gt => lt
  | ge => le

/-- The method that answers the comparison. -/
def methodName : Comparison → String
  | lt => "__lt__"
  | le => "__le__"
  | eq => "__eq__"
  | ne => "__ne__"
  | gt => "__gt__"
  | ge => "__ge__"

/-- What the comparison says of two things in a given order. -/
def holds (c : Comparison) (o : Ordering) : Bool :=
  match c with
  | lt => o == .lt
  | le => o != .gt
  | eq => o == .eq
  | ne => o != .eq
  | gt => o == .gt
  | ge => o != .lt

end Comparison

namespace Language

inductive BinaryOperator where
  | add | sub | mul | matMul | div | floorDiv | mod | pow | lshift | rshift | bitAnd | bitOr
  | bitXor
  deriving DecidableEq, Repr, Inhabited

namespace BinaryOperator

def spelling : BinaryOperator → String
  | add => "+"
  | sub => "-"
  | mul => "*"
  | matMul => "@"
  | div => "/"
  | floorDiv => "//"
  | mod => "%"
  | pow => "**"
  | lshift => "<<"
  | rshift => ">>"
  | bitAnd => "&"
  | bitOr => "|"
  | bitXor => "^"

/-- The stem of the methods that answer the operator. -/
def stem : BinaryOperator → String
  | add => "add"
  | sub => "sub"
  | mul => "mul"
  | matMul => "matmul"
  | div => "truediv"
  | floorDiv => "floordiv"
  | mod => "mod"
  | pow => "pow"
  | lshift => "lshift"
  | rshift => "rshift"
  | bitAnd => "and"
  | bitOr => "or"
  | bitXor => "xor"

end BinaryOperator

inductive UnaryOperator where
  | neg | pos | invert
  deriving DecidableEq, Repr, Inhabited

/-- What a link of a chain of comparisons asks. -/
inductive Relation where
  | rich (c : Comparison)
  | is
  | isNot
  | member
  | notMember
  deriving DecidableEq, Repr, Inhabited

inductive Constant where
  | none
  | truth (b : Bool)
  | ellipsis
  | int (n : Int)
  | float (x : Float)
  | text (t : Text)
  | bytes (b : List UInt8)
  deriving Inhabited

/-- The parameters of a function by name. Those in `positionalOnly` come first. -/
structure Signature where
  positionalOnly : List String
  positional : List String
  variadic : Option String
  keywordOnly : List String
  keywords : Option String
  deriving DecidableEq, Repr, Inhabited

namespace Signature

/-- The signature of a function that takes positional arguments alone. -/
def plain (names : List String) : Signature := ⟨[], names, none, [], none⟩

/-- The signature of a function that takes anything. -/
def anything : Signature := ⟨[], [], some "args", [], some "kwargs"⟩

/-- All parameters that take one positional argument. -/
def ordered (s : Signature) : List String := s.positionalOnly ++ s.positional

def names (s : Signature) : List String :=
  s.ordered ++ s.variadic.toList ++ s.keywordOnly ++ s.keywords.toList

end Signature

inductive ComprehensionKind where
  | list | set | dict | generator
  deriving DecidableEq, Repr, Inhabited

mutual

inductive Expression where
  | constant (c : Constant)
  | name (n : String)
  | tuple (items : List Expression)
  | list (items : List Expression)
  | set (items : List Expression)
  | dict (entries : List DictEntry)
  | unary (op : UnaryOperator) (e : Expression)
  | not (e : Expression)
  | binary (op : BinaryOperator) (left right : Expression)
  | compare (first : Expression) (rest : List Link)
  | and (left right : Expression)
  | or (left right : Expression)
  | conditional (test body orElse : Expression)
  | lambda (signature : Signature) (defaults : List Argument) (body : Expression)
  | call (f : Expression) (arguments : List Argument)
  | attribute (e : Expression) (name : String)
  | subscript (e index : Expression)
  | slice (start stop step : Expression)
  /-- an element, the value beside it in a dictionary, and the clauses -/
  | comprehension (kind : ComprehensionKind) (element value : Expression) (clauses : List Clause)
  | starred (e : Expression)
  | bind (name : String) (value : Expression)
  | format (parts : List FormatPart)

/-- A link of a chain of comparisons. -/
inductive Link where
  | link (r : Relation) (e : Expression)

inductive DictEntry where
  | pair (key value : Expression)
  | unpack (e : Expression)

/-- An argument of a call, or the default of a parameter. -/
inductive Argument where
  | positional (e : Expression)
  | starred (e : Expression)
  | keyword (name : String) (e : Expression)
  | mapping (e : Expression)

/-- A clause of a comprehension: what runs over which objects, and the conditions. -/
inductive Clause where
  | over (target source : Expression) (conditions : List Expression)

/-- A part of a formatted text: as it stands, or the form of a value. -/
inductive FormatPart where
  | literal (t : Text)
  | value (e : Expression) (conversion : Char) (specification : String)

end

instance : Inhabited Expression := ⟨.constant .none⟩

/-- The constant that stands for an expression left out. -/
def Expression.absent : Expression := .constant .none

mutual

inductive Statement where
  | expression (e : Expression)
  | assign (targets : List Expression) (value : Expression)
  | augment (target : Expression) (op : BinaryOperator) (value : Expression)
  | ret (e : Expression)
  | raise (e : Expression)
  | raiseFrom (e cause : Expression)
  | raiseAgain
  | pass
  | stop
  | next
  | delete (targets : List Expression)
  | conditional (test : Expression) (body orElse : List Statement)
  | loop (target source : Expression) (body orElse : List Statement)
  | repeatWhile (test : Expression) (body orElse : List Statement)
  | attempt (body : List Statement) (handlers : List Handler) (orElse final : List Statement)
  | assert (test message : Expression) (hasMessage : Bool)
  | define (name : String) (signature : Signature) (defaults : List Argument)
      (body : List Statement) (decorators : List Expression)
  | defineClass (name : String) (bases : List Expression) (body : List Statement)
      (decorators : List Expression)
  | importModule (name binding : String) (whole : Bool)
  | importFrom (module : String) (names : List (String × String))
  | global (names : List String)
  | nonlocal (names : List String)

/-- A handler: the class of the exceptions it takes, if it names one, and the name it binds. -/
inductive Handler where
  | all (body : List Statement)
  | of (cls : Expression) (binding : Option String) (body : List Statement)

end

instance : Inhabited Statement := ⟨.pass⟩

end Language

end EmbeddedPython
