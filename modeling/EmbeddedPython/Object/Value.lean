import EmbeddedPython.Object.Coroutine
import EmbeddedPython.Language.Tree

/-
  Objects

  An object has a class, a value of its own, and perhaps attributes. The value
  says what the object is underneath: an instance of a class derived from
  `int` has an integer for a value, and an instance of a plain class has none.
-/

namespace EmbeddedPython

/-- An entry of a dictionary, with the hash of its key. -/
structure Entry where
  hash : Int
  key : Ref
  value : Ref
  deriving DecidableEq, Repr, Inhabited

/-- A class that a program made. -/
structure ClassInfo where
  name : String
  bases : List Ref
  /-- all ancestors, nearest first -/
  ancestors : List Ref
  members : List (String × Ref)
  /-- what reading the name of the class does, if it is more than a name -/
  nameOutcome : Option Outcome
  /-- whether the instances are counted as probes -/
  counted : Bool
  deriving Inhabited

/-- Where a function that a program defined looks up its names. -/
structure Scope where
  globals : Ref
  /-- the names of the function itself; without a function they are the globals -/
  locals : Option Ref
  /-- the names of the functions around it, innermost first -/
  enclosing : List Ref
  /-- the names that are bound in the function -/
  bound : List String
  /-- the names declared to be global -/
  declared : List String
  /-- whether the names are those of a class under construction, where a name that is bound later
  is still looked for outside -/
  inClass : Bool
  deriving Inhabited

inductive FunctionBody where
  | scripted (outcome : Outcome)
  /-- items by index -/
  | items (outcomes : List Outcome)
  /-- returns a coroutine -/
  | coroutine (steps : List Step)
  | sample (f : SampleFunction)
  /-- a function of the module of paths -/
  | path (name : String)
  | raiser (exception : Blueprint)
  | code (body : List Language.Statement) (scope : Scope)
  | expression (body : Language.Expression) (scope : Scope)
  deriving Inhabited

/-- A function that a program defined. -/
structure Function where
  name : String
  signature : Language.Signature
  /-- the defaults of the last positional parameters -/
  defaults : List Ref
  keywordDefaults : List (String × Ref)
  body : FunctionBody
  deriving Inhabited

/-- What an exception keeps beside its arguments. -/
inductive ErrorDetails where
  | nothing
  | system (number text : Ref) (filename : Option Ref)
  | source (text filename line : Ref)
  | encoding (codec : Ref) (object : Ref) (start stop : Int) (reason : Ref)
  | importing (text : Ref) (name : Ref)
  | group (text : Ref) (members : List Ref)
  deriving Inhabited

/-- Where a built-in iterator stands. -/
inductive Cursor where
  /-- what is left of a list that is fixed -/
  | rest (items : List Ref)
  /-- the next index of a sequence -/
  | index (source : Ref) (next : Nat)
  /-- the next index of a list that is run through from its end; zero is the end -/
  | backwards (source : Ref) (left : Nat)
  /-- the next index of an object that answers to indices -/
  | asking (source : Ref) (next : Nat)
  | callable (function sentinel : Ref)
  | zip (iterators : List Ref)
  | map (function : Ref) (iterators : List Ref)
  | filter (function iterator : Ref)
  | enumerate (next : Int) (iterator : Ref)
  deriving Inhabited

/-- The part of a dictionary that a view shows. -/
inductive ViewKind where
  | keys | values | items
  deriving DecidableEq, Repr, Inhabited

/-- What an object is underneath. -/
inductive Value where
  | plain
  | int (n : Int)
  | float (x : Float)
  | text (t : Text)
  | bytes (b : List UInt8)
  | tuple (items : List Ref)
  | list (items : List Ref)
  | dict (entries : List Entry)
  | set (items : List (Int × Ref))
  | range (start stop step : Int)
  | slice (start stop step : Ref)
  | cls (info : ClassInfo)
  | function (f : Function)
  /-- a function bound to an object -/
  | method (function self : Ref)
  /-- a native method bound to an object -/
  | nativeMethod (owner : Builtin) (name : String) (self : Ref)
  | exception (arguments : List Ref) (details : ErrorDetails)
  | module (name : String)
  | property (getter : Ref)
  | cursor (c : Cursor)
  | view (kind : ViewKind) (dict : Ref)
  /-- the names of a running function or of a class under construction -/
  | names (bindings : List (String × Ref))
  | coroutine (c : Coroutine)
  | asyncGenerator (c : Coroutine)
  /-- a request for the next item of an asynchronous generator -/
  | asyncGeneratorStep (generator : Ref)
  | future (f : Future)
  | loop (l : Loop)
  /-- a class with parameters -/
  | alias (origin : Ref) (parameters : List Ref)
  deriving Inhabited

/-- An object. -/
structure Object where
  cls : Ref
  value : Value
  attributes : Option (List (String × Ref))
  deriving Inhabited

namespace Scope

def references (s : Scope) : List Ref := s.globals :: s.locals.toList ++ s.enclosing

end Scope

namespace FunctionBody

def references : FunctionBody → List Ref
  | scripted outcome => outcome.references
  | items outcomes => Outcome.referencesAll outcomes
  | coroutine steps => Step.referencesAll steps
  | sample _ | path _ => []
  | raiser exception => exception.references
  | code _ scope | expression _ scope => scope.references

end FunctionBody

namespace Function

def references (f : Function) : List Ref :=
  f.defaults ++ f.keywordDefaults.map (·.2) ++ f.body.references

end Function

namespace ErrorDetails

def references : ErrorDetails → List Ref
  | nothing => []
  | system number text filename => [number, text] ++ filename.toList
  | source text filename line => [text, filename, line]
  | encoding codec object _ _ reason => [codec, object, reason]
  | importing text name => [text, name]
  | group text members => text :: members

end ErrorDetails

namespace Cursor

def references : Cursor → List Ref
  | rest items => items
  | index source _ | backwards source _ | asking source _ => [source]
  | callable function sentinel => [function, sentinel]
  | zip iterators => iterators
  | map function iterators => function :: iterators
  | filter function iterator => [function, iterator]
  | enumerate _ iterator => [iterator]

end Cursor

namespace Value

/-- The objects that a value holds on to. -/
def references : Value → List Ref
  | plain | int _ | float _ | text _ | bytes _ | range .. | module _ => []
  | tuple items | list items => items
  | dict entries => entries.flatMap fun e => [e.key, e.value]
  | set items => items.map (·.2)
  | slice start stop step => [start, stop, step]
  | cls info => info.bases ++ info.members.map (·.2)
    ++ (match info.nameOutcome with
      | some o => o.references
      | none => [])
  | function f => f.references
  | method callee self => [callee, self]
  | nativeMethod _ _ self => [self]
  | exception arguments details => arguments ++ details.references
  | property getter => [getter]
  | cursor c => c.references
  | view _ source => [source]
  | names bindings => bindings.map (·.2)
  | coroutine c | asyncGenerator c => c.references
  | asyncGeneratorStep generator => [generator]
  | future f => f.references
  | loop l => l.references
  | .alias origin parameters => origin :: parameters

end Value

namespace Object

/-- The objects that an object holds on to, one entry for each time. -/
def references (o : Object) : List Ref :=
  o.cls :: o.value.references ++ (o.attributes.getD []).map (·.2)

end Object

end EmbeddedPython
