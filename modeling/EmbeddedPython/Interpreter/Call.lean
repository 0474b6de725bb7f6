import EmbeddedPython.Interpreter.Binding
import EmbeddedPython.Interpreter.Modules

/-
  Calls

  What is called decides what happens: a class makes an instance, a function
  of a program runs its body, a native function does its work. `machine` ties
  the operations of all levels together.
-/

namespace EmbeddedPython

namespace Eval

/-- The text of an argument of a sample function, as far as it is one. -/
def textOf (r : Ref) : Eval Text := do
  match (← valueOf r) with
  | .text t => pure t
  | _ => typeError ("sequence item 0: expected str instance, " ++ (← typeName r) ++ " found")

def textsOf (r : Ref) : Eval (List Text) := do
  match (← valueOf r) with
  | .tuple items => items.zipIdx.mapM fun (p : Ref × Nat) => do
    match (← valueOf p.1) with
    | .text t => pure t
    | _ =>
      typeError ("sequence item " ++ toString p.2 ++ ": expected str instance, "
        ++ (← typeName p.1) ++ " found")
  | _ => pure []

/-- Runs a sample function with its bound arguments. -/
def runSample (m : Machine) (f : SampleFunction) (bound : List (String × Ref)) : Eval Ref := do
  let get := fun (n : String) => (bound.lookup n).getD Ref.none
  match f with
  | .echo => do
    let keywords ← (← entriesOf (get "kwargs")).mapM fun e => do pure (← textOf e.key, e.value)
    match (← valueOf (get "args")) with
    | .tuple items => echo items keywords
    | _ => echo [] keywords
  | .two => newTuple [get "a", get "b"]
  | .opt => newTuple [get "a", get "b", get "c"]
  | .pos => pure (get "a")
  | .kwonly => pure (get "k")
  | .zero => newString "zero"
  | .ident => pure (get "x")
  | .join => do newText (Text.intercalate "+" (← textsOf (get "args")))
  | .fail => do
    raise .valueError (Text.intercalate " " (← textsOf (get "args")))
  | .badRepr => do
    let cls ← newClass "BadRepr" (Ref.ofBuiltin .object)
      (← newMembers [.method "__repr__" (.raises (.exception "ValueError" [.text "no repr"]))])
      none false
    alloc cls .plain (some [])
  | .pathTail => do
    let path ← match (← memory).modules.lookup "sys" with
      | some sys => getAttr m sys "path"
      | none => do
        match (← memory).searchPath with
        | some path => pure path
        | none => newList []
    let n ← toInt m (get "n")
    let start ← newInt (-n)
    getItem m path (← make .slice (.slice start Ref.none Ref.none))
  | .answer => newCoroutine [.giveWay 1, .ret (.existing (get "args"))]
  | .failLater => do
    let text := Text.intercalate " " (← textsOf (get "args"))
    newCoroutine [.giveWay 1, .raise (.exception "ValueError" [.text text])]
  | .cancelLater => newCoroutine [.raise (.exception "CancelledError" [])]
  | .hang => newCoroutine [.wait "orc.hang" none]
  | .stubborn =>
    newCoroutine [.guarded [.wait "orc.hang" none] [.ret (.text "ignored")] false]
  | .cleanupFails =>
    newCoroutine [.guarded [.wait "orc.hang" none]
      [.raise (.exception "KeyError" [.text "cleanup"])] false]
  | .interrupt => newCoroutine [.interrupt, .wait "orc.hang" none]
  | .stuck => newCoroutine [.stubborn "orc.hang"]

/-- The item that a scripted `__getitem__` has for an index. -/
def scriptedItem (m : Machine) (self : Ref) (outcomes : List Outcome) (arguments : List Ref)
    (keywords : List (Text × Ref)) : Eval Ref := do
  match arguments with
  | key :: _ => do
    match (← valueOf key) with
    | .int n =>
      match (if n < 0 then none else outcomes[n.toNat]?) with
      | some o => perform m self arguments keywords o
      | none => raise .indexError "index out of range"
    | _ => keyError key
  | [] => typeError "__getitem__() missing 1 required positional argument: 'i'"

/-- Calls a function of a program. -/
def callFunction (m : Machine) (f : Function) (arguments : List Ref)
    (keywords : List (Text × Ref)) : Eval Ref := do
  match f.body with
  | .scripted outcome =>
    perform m (arguments.headD Ref.none) arguments.tail keywords outcome
  | .items outcomes =>
    scriptedItem m (arguments.headD Ref.none) outcomes arguments.tail keywords
  | .coroutine steps => newCoroutine steps
  | .raiser exception => do raiseObject m (← build m exception)
  | .sample s => do runSample m s (← bindArguments m f arguments keywords)
  | .path name => do runPathFunction name (← bindArguments m f arguments keywords)
  | .code body scope => do
    runCode m scope f.signature body (← bindArguments m f arguments keywords)
  | .expression body scope => do
    runExpression m scope f.signature body (← bindArguments m f arguments keywords)

/-- Calls a native function of a module. -/
def callModuleFunction (m : Machine) (module name : String) (arguments : List Ref)
    (keywords : List (Text × Ref)) : Eval Ref := do
  match module, name with
  | "builtins", "__import__" => do
    match arguments with
    | r :: _ => do
      match (← valueOf r) with
      | .text t => importFirst t.toStringLossy
      | _ => typeError ("__import__() argument 1 must be str, not " ++ (← typeName r))
    | [] => typeError "__import__() missing required argument 'name' (pos 1)"
  | "builtins", _ => builtinFunction m name arguments keywords
  | "math", _ => mathFunction m name arguments keywords
  | "operator", _ => operatorFunction m name arguments keywords
  | "sys", _ => do throw (← newException .systemExit (arguments.take 1))
  | "asyncio", "new_event_loop" => newLoop
  | "asyncio", "ensure_future" => do
    match arguments, keywords.find? fun k => k.1 == Text.ofString "loop" with
    | awaitable :: _, some (_, loop) => ensureFuture m awaitable loop
    | awaitable :: _, none => do ensureFuture m awaitable (← runningLoop)
    | [], _ => typeError "ensure_future() missing 1 required positional argument: 'coro_or_future'"
  | "asyncio", "sleep" => do
    match arguments with
    | delay :: rest =>
      make .coroutine (.coroutine ⟨.created, [.sleeping delay (rest.headD Ref.none)]⟩)
    | [] => typeError "sleep() missing 1 required positional argument: 'delay'"
  | _, _ => loopFunction name

/-- Calls an object. -/
def callObject (m : Machine) (f : Ref) (arguments : List Ref) (keywords : List (Text × Ref)) :
    Eval Ref := do
  match f with
  | .static (.function module name) => callModuleFunction m module name arguments keywords
  | .static (.method owner name) => callUnbound m owner name arguments keywords
  | _ =>
    if ((← memory).class? f).isSome then instantiate m f arguments keywords
    else
      match (← valueOf f) with
      | .function g => callFunction m g arguments keywords
      | .alias origin _ => m.call origin arguments keywords
      | .method g self => m.call g (self :: arguments) keywords
      | .nativeMethod owner name self => callNative m owner name self arguments keywords
      | _ =>
        match (← special f "__call__") with
        | some (.member g) => do
          if ← binds g then m.call g (f :: arguments) keywords else m.call g arguments keywords
        | _ => typeError ("'" ++ (← typeName f) ++ "' object is not callable")

end Eval

/-- The operations with so many levels below them. -/
def machine : Nat → Machine
  | 0 => Machine.exhausted
  | depth + 1 =>
    let below := machine depth
    { call := Eval.callObject below
      repr := Eval.reprOf below
      str := Eval.strOf below
      compare := Eval.richCompare below
      hash := Eval.hashOf below
      advance := Eval.advanceIterator below
      truth := Eval.truth below }

/-- How deep operations may be nested. -/
def recursionLimit : Nat := 1000

/-- The operations that the host asks for. -/
def Machine.top : Machine := machine recursionLimit

end EmbeddedPython
