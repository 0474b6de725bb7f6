import EmbeddedPython.Interpreter.Exception

/-
  Building objects from blueprints

  A blueprint is built from the inside out. A probe, a derived object and an
  exception of a custom class each get a class of their own.
-/

namespace EmbeddedPython

open EmbeddedPython.Language (Signature)

namespace SampleFunction

def name : SampleFunction → String
  | echo => "echo"
  | two => "two"
  | opt => "opt"
  | pos => "pos"
  | kwonly => "kwonly"
  | zero => "zero"
  | ident => "ident"
  | join => "join"
  | fail => "fail"
  | badRepr => "badrepr"
  | pathTail => "path_tail"
  | answer => "answer"
  | failLater => "afail"
  | cancelLater => "acancel"
  | hang => "hang"
  | stubborn => "stubborn"
  | cleanupFails => "cleanup_fails"
  | interrupt => "interrupt"
  | stuck => "stuck"

def all : List SampleFunction := [
  echo, two, opt, pos, kwonly, zero, ident, join, fail, badRepr, pathTail, answer, failLater,
  cancelLater, hang, stubborn, cleanupFails, interrupt, stuck]

/-- The parameters of a sample function. -/
def signature : SampleFunction → Signature
  | echo => Signature.anything
  | two => Signature.plain ["a", "b"]
  | opt => ⟨[], ["a", "b"], none, ["c"], none⟩
  | pos => ⟨["a"], [], none, [], none⟩
  | kwonly => ⟨[], [], none, ["k"], none⟩
  | zero | badRepr | cancelLater | hang | stubborn | cleanupFails | interrupt | stuck =>
    Signature.plain []
  | ident => Signature.plain ["x"]
  | pathTail => Signature.plain ["n"]
  | join | fail | answer | failLater => ⟨[], [], some "args", [], none⟩

end SampleFunction

namespace Eval

/-- Makes the class of a name with a base and members. -/
def newClass (name : String) (base : Ref) (members : List (String × Ref))
    (nameOutcome : Option Outcome) (counted : Bool) : Eval Ref := do
  let ancestors := (← Eval.memory).lineage base
  alloc (Ref.ofBuiltin .type)
    (.cls ⟨name, [base], ancestors, members, nameOutcome, counted⟩) none

/-- Makes the class of a definition with several bases. -/
def makeClass (name : String) (bases : List Ref) (members : List (String × Ref)) : Eval Ref := do
  let memory ← memory
  let checked ← bases.mapM fun b => do
    match memory.class? b with
    | some (.builtin c) =>
      if c.isFinal then typeError ("type '" ++ c.name ++ "' is not an acceptable base type")
      else pure (memory.lineage b)
    | some (.made _) => pure (memory.lineage b)
    | none => typeError ("cannot create '" ++ name ++ "' instances")
  let object := Ref.ofBuiltin .object
  let all := checked.flatten.filter (· != object)
  -- of an ancestor of several bases the last place counts
  let ancestors := (all.reverse.eraseDups.reverse) ++ [object]
  let members := if (members.lookup "__eq__").isSome && (members.lookup "__hash__").isNone
    then members ++ [("__hash__", Ref.none)] else members
  alloc (Ref.ofBuiltin .type)
    (.cls ⟨name, if bases.isEmpty then [object] else bases, ancestors, members, none, false⟩) none

def newFunction (name : String) (signature : Signature) (body : FunctionBody) : Eval Ref :=
  make .function (.function ⟨name, signature, [], [], body⟩)

/-- Makes a sample function. -/
def newSample (f : SampleFunction) : Eval Ref :=
  match f with
  | .opt =>
    make .function (.function ⟨f.name, f.signature, [.static (.smallInt 2)],
      [("c", .static (.smallInt 3))], .sample f⟩)
  | f => newFunction f.name f.signature (.sample f)

/-- The member that a method gives a class. -/
def newMethod (method : Method) : Eval (String × Ref) :=
  match method with
  | .method name outcome => do
    pure (name, ← newFunction name Signature.anything (.scripted outcome))
  | .items outcomes => do
    pure ("__getitem__", ← newFunction "__getitem__" Signature.anything (.items outcomes))
  | .coroutine name steps => do
    pure (name, ← newFunction name Signature.anything (.coroutine steps))

/-- The members that methods give a class. A class with an equality and no hash of its own has
no hash at all. -/
def newMembers (methods : List Method) : Eval (List (String × Ref)) := do
  let members ← methods.mapM newMethod
  if (members.lookup "__eq__").isSome && (members.lookup "__hash__").isNone then
    pure (members ++ [("__hash__", Ref.none)])
  else pure members

def newCoroutine (steps : List Step) : Eval Ref :=
  make .coroutine (.coroutine ⟨.created, [.steps steps]⟩)

/-- Makes a future of a loop. -/
def newFuture (loop : Ref) : Eval Ref :=
  make .future (.future ⟨loop, .pending, [], [], none⟩)

mutual

/-- Builds the object of a blueprint. -/
def build (m : Machine) : Blueprint → Eval Ref
  | .none => pure Ref.none
  | .truth b => newBool b
  | .int n => newInt n
  | .float x => newFloat x
  | .text t => newText t
  | .bytes b => newBytes b
  | .bytearray b => make .bytearray (.bytes b)
  | .list items => do newList (← buildAll m items)
  | .tuple items => do newTuple (← buildAll m items)
  | .set items => do make .set (.set (← itemsFrom m (← buildAll m items)))
  | .frozenset items => do make .frozenset (.set (← itemsFrom m (← buildAll m items)))
  | .dict entries => do newDict m (← buildPairs m entries)
  | .range start stop step => make .range (.range start stop step)
  | .builtin name => pure ((Builtin.ofName? name).elim Ref.none Ref.ofBuiltin)
  | .derived base name value => do
    let base := Ref.ofBuiltin ((Builtin.ofName? base).getD .object)
    let cls ← newClass name base [] none false
    let plain ← m.call base [← build m value] []
    alloc cls (← valueOf plain) (some [])
  | .cyclic item => do
    let item ← build m item
    let r ← newList [item]
    setValue r (.list [item, r])
    pure r
  | .nested depth item => do
    (List.range depth).foldlM (fun inner _ => newList [inner]) (← build m item)
  | .named _ | .future _ | .futureLike .. => pure Ref.none
  | .existing r => pure r
  | .function f => newSample f
  | .raiser exception => newFunction "raise" Signature.anything (.raiser exception)
  | .exception name arguments => do
    let c := if name == "CancelledError" then ExceptionClass.cancelledError
      else (ExceptionClass.ofName? name).getD .exception
    construct m (Ref.ofExceptionClass c) (← buildAll m arguments)
  | .customException name base arguments text nameOfClass => do
    let base := Ref.ofExceptionClass ((ExceptionClass.ofName? base).getD .exception)
    let members ← match text with
      | some outcome => newMembers [.method "__str__" outcome]
      | none => pure []
    let cls ← newClass name base members nameOfClass false
    construct m cls (← buildAll m arguments)
  | .probe name attributes methods => do
    let cls ← newClass name (Ref.ofBuiltin .sample) (← newMembers methods) none true
    alloc cls .plain (some (← buildAttributes m attributes))
  | .coroutine steps => newCoroutine steps
  | .asyncGenerator steps =>
    make .asyncGenerator (.asyncGenerator ⟨.created, [.generating steps]⟩)
  | .futureOn loop => newFuture loop
  | .futureLikeOn loop methods => do
    let members ← newMembers methods
    let members := members ++ [("_asyncio_future_blocking", Ref.ofBool false),
      ("__await__", ← newFunction "__await__" Signature.anything (.scripted .itself)),
      ("get_loop", ← newFunction "get_loop" Signature.anything
        (.scripted (.returns (.existing loop))))]
    let cls ← newClass "FakeFuture" (Ref.ofBuiltin .object) members none false
    alloc cls .plain (some [])

/-- Builds objects in order. -/
def buildAll (m : Machine) : List Blueprint → Eval (List Ref)
  | [] => pure []
  | b :: rest => do
    let r ← build m b
    pure (r :: (← buildAll m rest))

def buildPairs (m : Machine) : List Pair → Eval (List (Ref × Ref))
  | [] => pure []
  | .pair key value :: rest => do
    let key ← build m key
    let value ← build m value
    pure ((key, value) :: (← buildPairs m rest))

def buildAttributes (m : Machine) : List Attribute → Eval (List (String × Ref))
  | [] => pure []
  | .attribute name value :: rest => do
    let value ← build m value
    pure ((name, value) :: (← buildAttributes m rest))

end

/-- The tuple of arguments and sorted keywords that an echo answers. -/
def echo (arguments : List Ref) (keywords : List (Text × Ref)) : Eval Ref := do
  let sorted := keywords.mergeSort fun a b => !(Text.isLess b.1 a.1)
  let pairs ← sorted.mapM fun (k : Text × Ref) => do newTuple [← newText k.1, k.2]
  newTuple [← newTuple arguments, ← newList pairs]

/-- Does what an outcome says, for the method of an object. -/
def perform (m : Machine) (self : Ref) (arguments : List Ref) (keywords : List (Text × Ref)) :
    Outcome → Eval Ref
  | .returns value => build m value
  | .raises exception => do raiseObject m (← build m exception)
  | .notImplemented => pure Ref.notImplemented
  | .itself => pure self
  | .echo => echo arguments keywords

end Eval

end EmbeddedPython
