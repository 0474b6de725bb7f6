import EmbeddedPython.Duration
import EmbeddedPython.Object.Reference

/-
  Blueprints of objects

  A blueprint describes a fresh object: a plain value, a container, an
  exception, a probe whose methods have prescribed outcomes, a coroutine made
  of steps. Building it twice gives two objects. A blueprint may name an object
  that is there already; `resolve` puts the object in place of the name.
-/

namespace EmbeddedPython

/-- A function of the sample module. -/
inductive SampleFunction where
  | echo | two | opt | pos | kwonly | zero | ident
  | join | fail | badRepr | pathTail
  | answer | failLater | cancelLater | hang | stubborn | cleanupFails | interrupt | stuck
  deriving DecidableEq, Repr, Inhabited

mutual

/-- A description of a fresh object. -/
inductive Blueprint where
  | none
  | truth (b : Bool)
  | int (n : Int)
  | float (x : Float)
  | text (t : Text)
  | bytes (b : List UInt8)
  | bytearray (b : List UInt8)
  | list (items : List Blueprint)
  | tuple (items : List Blueprint)
  | set (items : List Blueprint)
  | frozenset (items : List Blueprint)
  | dict (entries : List Pair)
  | range (start stop step : Int)
  /-- the built-in class of a name -/
  | builtin (name : String)
  /-- an instance of a new class derived from a built-in one -/
  | derived (base name : String) (value : Blueprint)
  /-- a list of an object and the list itself -/
  | cyclic (item : Blueprint)
  /-- an object inside a number of lists -/
  | nested (depth : Nat) (item : Blueprint)
  /-- the object that a name stands for -/
  | named (name : String)
  /-- an object that is there already -/
  | existing (r : Ref)
  | function (f : SampleFunction)
  /-- a function that raises a fresh exception each time -/
  | raiser (exception : Blueprint)
  | exception (name : String) (arguments : List Blueprint)
  /-- an instance of a new exception class, with the outcomes of asking for its text and for the
  name of its class -/
  | customException (name base : String) (arguments : List Blueprint)
      (text nameOfClass : Option Outcome)
  /-- an instance of a new class with attributes and methods -/
  | probe (name : String) (attributes : List Attribute) (methods : List Method)
  | coroutine (steps : List Step)
  | asyncGenerator (steps : List Step)
  /-- a plain future of the loop of a name -/
  | future (loop : String)
  | futureOn (loop : Ref)
  /-- something that looks like a future of the loop of a name, its methods with prescribed
  outcomes -/
  | futureLike (loop : String) (methods : List Method)
  | futureLikeOn (loop : Ref) (methods : List Method)

/-- A key and its value. -/
inductive Pair where
  | pair (key value : Blueprint)

inductive Attribute where
  | attribute (name : String) (value : Blueprint)

/-- What a method does when it is called. -/
inductive Outcome where
  /-- returns a fresh object -/
  | returns (value : Blueprint)
  | raises (exception : Blueprint)
  | notImplemented
  | itself
  /-- returns the arguments and the sorted keywords -/
  | echo

/-- A method of a probe. -/
inductive Method where
  | method (name : String) (outcome : Outcome)
  /-- items by index -/
  | items (outcomes : List Outcome)
  /-- a coroutine made of steps, started by the method -/
  | coroutine (name : String) (steps : List Step)

/-- A step of a coroutine. -/
inductive Step where
  | log (text : String)
  /-- gives way to the loop so many times -/
  | giveWay (count : Nat)
  /-- waits for a gate, and logs what comes out under a label -/
  | wait (gate : String) (label : Option String)
  | ret (value : Blueprint)
  | raise (exception : Blueprint)
  /-- runs a body and on cancellation a handler, and raises the cancellation again if told so -/
  | guarded (body handler : List Step) (again : Bool)
  /-- runs a body and in any case the final steps after it -/
  | finally (body final : List Step)
  | repeat (count : Nat) (body : List Step)
  /-- awaits a nested coroutine and logs what it returned -/
  | await (steps : List Step)
  /-- waits for a gate, and on each cancellation says so and waits again -/
  | stubborn (gate : String)
  | cancelSelf
  | stopLoop
  /-- yields a value of an asynchronous generator -/
  | emit (value : Blueprint)
  /-- ends an asynchronous generator -/
  | finish
  /-- sends the process an interrupt after a while -/
  | interrupt

end

instance : Inhabited Blueprint := ⟨.none⟩
instance : Inhabited Outcome := ⟨.itself⟩
instance : Inhabited Step := ⟨.finish⟩

/-- How long after the step the interrupt comes. -/
def Step.interruptDelay : Duration := Duration.ofMilliseconds 250

/-- What names stand for. -/
structure Naming where
  objects : String → Option Ref
  loops : String → Option Ref

mutual

/-- Puts objects in place of their names. A name without an object stands for `None`. -/
def Blueprint.resolve (names : Naming) : Blueprint → Blueprint
  | .named name => .existing ((names.objects name).getD Ref.none)
  | .list items => .list (Blueprint.resolveAll names items)
  | .tuple items => .tuple (Blueprint.resolveAll names items)
  | .set items => .set (Blueprint.resolveAll names items)
  | .frozenset items => .frozenset (Blueprint.resolveAll names items)
  | .dict entries => .dict (Pair.resolveAll names entries)
  | .derived base name value => .derived base name (value.resolve names)
  | .cyclic item => .cyclic (item.resolve names)
  | .nested depth item => .nested depth (item.resolve names)
  | .raiser exception => .raiser (exception.resolve names)
  | .exception name arguments => .exception name (Blueprint.resolveAll names arguments)
  | .customException name base arguments text nameOfClass =>
    .customException name base (Blueprint.resolveAll names arguments)
      (match text with
        | some o => some (o.resolve names)
        | none => none)
      (match nameOfClass with
        | some o => some (o.resolve names)
        | none => none)
  | .probe name attributes methods =>
    .probe name (Attribute.resolveAll names attributes) (Method.resolveAll names methods)
  | .coroutine steps => .coroutine (Step.resolveAll names steps)
  | .asyncGenerator steps => .asyncGenerator (Step.resolveAll names steps)
  | .future loop => .futureOn ((names.loops loop).getD Ref.none)
  | .futureLike loop methods =>
    .futureLikeOn ((names.loops loop).getD Ref.none) (Method.resolveAll names methods)
  | b => b

def Blueprint.resolveAll (names : Naming) : List Blueprint → List Blueprint
  | [] => []
  | b :: rest => b.resolve names :: Blueprint.resolveAll names rest

def Pair.resolve (names : Naming) : Pair → Pair
  | .pair key value => .pair (key.resolve names) (value.resolve names)

def Pair.resolveAll (names : Naming) : List Pair → List Pair
  | [] => []
  | p :: rest => p.resolve names :: Pair.resolveAll names rest

def Attribute.resolve (names : Naming) : Attribute → Attribute
  | .attribute name value => .attribute name (value.resolve names)

def Attribute.resolveAll (names : Naming) : List Attribute → List Attribute
  | [] => []
  | a :: rest => a.resolve names :: Attribute.resolveAll names rest

def Outcome.resolve (names : Naming) : Outcome → Outcome
  | .returns value => .returns (value.resolve names)
  | .raises exception => .raises (exception.resolve names)
  | o => o

def Outcome.resolveAll (names : Naming) : List Outcome → List Outcome
  | [] => []
  | o :: rest => o.resolve names :: Outcome.resolveAll names rest

def Method.resolve (names : Naming) : Method → Method
  | .method name outcome => .method name (outcome.resolve names)
  | .items outcomes => .items (Outcome.resolveAll names outcomes)
  | .coroutine name steps => .coroutine name (Step.resolveAll names steps)

def Method.resolveAll (names : Naming) : List Method → List Method
  | [] => []
  | m :: rest => m.resolve names :: Method.resolveAll names rest

def Step.resolve (names : Naming) : Step → Step
  | .ret value => .ret (value.resolve names)
  | .raise exception => .raise (exception.resolve names)
  | .guarded body handler again =>
    .guarded (Step.resolveAll names body) (Step.resolveAll names handler) again
  | .finally body final => .finally (Step.resolveAll names body) (Step.resolveAll names final)
  | .repeat count body => .repeat count (Step.resolveAll names body)
  | .await steps => .await (Step.resolveAll names steps)
  | .emit value => .emit (value.resolve names)
  | s => s

def Step.resolveAll (names : Naming) : List Step → List Step
  | [] => []
  | s :: rest => s.resolve names :: Step.resolveAll names rest

end

mutual

/-- The objects that a blueprint holds on to. -/
def Blueprint.references : Blueprint → List Ref
  | .existing r => [r]
  | .list items | .tuple items | .set items | .frozenset items | .exception _ items =>
    Blueprint.referencesAll items
  | .dict entries => Pair.referencesAll entries
  | .derived _ _ value | .cyclic value | .nested _ value | .raiser value => value.references
  | .customException _ _ arguments text nameOfClass =>
    Blueprint.referencesAll arguments
      ++ (match text with
        | some o => o.references
        | none => [])
      ++ (match nameOfClass with
        | some o => o.references
        | none => [])
  | .probe _ attributes methods =>
    Attribute.referencesAll attributes ++ Method.referencesAll methods
  | .coroutine steps | .asyncGenerator steps => Step.referencesAll steps
  | .futureOn loop => [loop]
  | .futureLike _ methods => Method.referencesAll methods
  | .futureLikeOn loop methods => loop :: Method.referencesAll methods
  | _ => []

def Blueprint.referencesAll : List Blueprint → List Ref
  | [] => []
  | b :: rest => b.references ++ Blueprint.referencesAll rest

def Pair.referencesAll : List Pair → List Ref
  | [] => []
  | .pair key value :: rest => key.references ++ value.references ++ Pair.referencesAll rest

def Attribute.referencesAll : List Attribute → List Ref
  | [] => []
  | .attribute _ value :: rest => value.references ++ Attribute.referencesAll rest

def Outcome.references : Outcome → List Ref
  | .returns value => value.references
  | .raises exception => exception.references
  | _ => []

def Outcome.referencesAll : List Outcome → List Ref
  | [] => []
  | o :: rest => o.references ++ Outcome.referencesAll rest

def Method.referencesAll : List Method → List Ref
  | [] => []
  | .method _ outcome :: rest => outcome.references ++ Method.referencesAll rest
  | .items outcomes :: rest => Outcome.referencesAll outcomes ++ Method.referencesAll rest
  | .coroutine _ steps :: rest => Step.referencesAll steps ++ Method.referencesAll rest

def Step.references : Step → List Ref
  | .ret value | .emit value => value.references
  | .raise exception => exception.references
  | .guarded body other _ | .finally body other =>
    Step.referencesAll body ++ Step.referencesAll other
  | .repeat _ body | .await body => Step.referencesAll body
  | _ => []

def Step.referencesAll : List Step → List Ref
  | [] => []
  | s :: rest => s.references ++ Step.referencesAll rest

end

end EmbeddedPython
