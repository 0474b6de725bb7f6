import EmbeddedPython.Bridge.EventLoop

/-
  Asynchronous iteration

  An iterator schedules the `__anext__()` of a Python object on a loop, one
  step after the other. It is exhausted when a step ends with an exception of
  the type that ends an asynchronous iteration.
-/

namespace EmbeddedPython.Bridge

open Activity

/-- An asynchronous iterator of the interpreter with the loop that its items are awaited on. -/
structure AsyncIterator where
  loop : LoopId
  iterator : Handle
  token : Cancellation.Token
  exhausted : Bool
  deriving DecidableEq, Repr, Inhabited

/-- The name of the exception that ends an iteration. -/
def endOfIteration : String := "StopAsyncIteration"

/-- The iterator of an object, asked for on the calling thread. -/
def iteratorOf (iterable : Handle) : Op Handle := do
  if !(← iterable.hasAttr "__aiter__") then
    Op.fail (.notAsyncIterable (← Op.orElse unknownType iterable.typeName))
  else iterable.callMethod "__aiter__" []

/-- Begins to iterate over an object. -/
def iterateOver (t : ThreadId) (l : LoopId) (iterable : Handle) (token : Cancellation.Token) :
    Activity (Except Error AsyncIterator) := do
  match (← ask t (iteratorOf iterable)) with
  | .ok iterator => pure (.ok ⟨l, iterator, token, false⟩)
  | .error e => pure (.error e)

namespace AsyncIterator

/-- What asking for the next item came to at once. -/
inductive Asked where
  /-- the item, or the end, or why there is neither -/
  | ready (result : Except Error (Option Handle))
  | waiting (promise : PromiseId)
  deriving Inhabited

/-- What the outcome of a step means for the iteration. -/
def conclude (x : AsyncIterator) (outcome : Outcome) :
    Except Error (Option Handle) × AsyncIterator :=
  match outcome with
  | .ok item => (.ok (some item), x)
  | .error (.python e) =>
    if e.typeName = endOfIteration then (.ok none, { x with exhausted := true })
    else (.error (.python e), x)
  | .error e => (.error e, x)

/-- Asks for the next item. -/
def ask (t : ThreadId) (x : AsyncIterator) : Activity (Asked × AsyncIterator) := do
  if x.exhausted then pure (.ready (.ok none), x)
  else
    match (← Activity.ask t (x.iterator.callMethod "__anext__" [])) with
    | .error e => pure (.ready (.error e), x)
    | .ok step => do
      let submitted ← submit t x.loop step x.token
      tell t step.drop
      match submitted with
      | .ok promise => pure (.waiting promise, x)
      | .error e =>
        let (result, x) := x.conclude (.error e)
        pure (.ready result, x)

/-- How a collection of all items stands after the answer to its last call. -/
inductive Gathered where
  | more (items : List Handle)
  | finished (result : Except Error (List Handle))
  deriving Inhabited

/-- What the answer to a call means for a collection. -/
def gather (items : List Handle) : Except Error (Option Handle) → Gathered
  | .ok (some item) => .more (items ++ [item])
  | .ok none => .finished (.ok items)
  | .error e => .finished (.error e)

/-- The described form of an iterator. -/
def describe (x : AsyncIterator) : String :=
  Text.record "AsyncIterator" [("exhausted", Text.ofBool x.exhausted)]

end AsyncIterator

end EmbeddedPython.Bridge
