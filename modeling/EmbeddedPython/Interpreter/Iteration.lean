import EmbeddedPython.Interpreter.Comparison
import EmbeddedPython.Object.SlotTable

/-
  Iteration

  An object is iterable by a method of its own, or because it answers to
  indices from zero until it has no more. Built-in containers are run through
  as they stand; iterators are asked for one item after the other.
-/

namespace EmbeddedPython

namespace Eval

/-- How many items an iterator is asked for at most. -/
def iterationBound : Nat := 1000000

/-- The item of a built-in sequence at an index. -/
def nativeItem (v : Value) (i : Nat) : Eval (Option Ref) :=
  match v with
  | .list items | .tuple items => pure items[i]?
  | .text t =>
    match t.points[i]? with
    | some c => do pure (some (← newText ⟨[c]⟩))
    | none => pure none
  | .bytes b =>
    match b[i]? with
    | some x => do pure (some (← newInt x.toNat))
    | none => pure none
  | .range start stop step =>
    if i < rangeLength start stop step then do pure (some (← newInt (start + i * step)))
    else pure none
  | _ => pure none

/-- The items that a view of a dictionary shows. -/
def viewItems (kind : ViewKind) (entries : List Entry) : Eval (List Ref) :=
  match kind with
  | .keys => pure (entries.map (·.key))
  | .values => pure (entries.map (·.value))
  | .items => entries.mapM fun e => newTuple [e.key, e.value]

/-- The items of a built-in container, as it stands. -/
def snapshot (v : Value) : Eval (Option (List Ref)) :=
  match v with
  | .list items | .tuple items => pure (some items)
  | .text t => do pure (some (← t.points.mapM fun c => newText ⟨[c]⟩))
  | .bytes b => do pure (some (← b.mapM fun x => newInt x.toNat))
  | .dict entries => pure (some (entries.map (·.key)))
  | .set items => pure (some (SlotTable.order items))
  | .range start stop step => do
    pure (some (← (List.range (rangeLength start stop step)).mapM fun (i : Nat) =>
      newInt (start + i * step)))
  | .view kind dict => do pure (some (← viewItems kind (← entriesOf dict)))
  | _ => pure none

/-- The iterator class for a kind of object. -/
def iteratorKind : Builtin → IteratorKind
  | .list => .list
  | .tuple => .tuple
  | .str => .text
  | .bytes => .bytes
  | .bytearray => .bytearray
  | .dict | .dictKeys => .dictKeys
  | .dictValues => .dictValues
  | .dictItems => .dictItems
  | .set | .frozenset => .set
  | .range => .range
  | _ => .sequence

def notIterable {α : Type} (r : Ref) : Eval α := do
  typeError ("'" ++ (← typeName r) ++ "' object is not iterable")

/-- The iterator of a built-in container. -/
def nativeIterator (owner : Builtin) (r : Ref) : Eval Ref := do
  match (← valueOf r) with
  | .list _ | .tuple _ | .text _ | .bytes _ | .range .. =>
    make (.iterator (iteratorKind owner)) (.cursor (.index r 0))
  | .cursor _ => pure r
  | v =>
    match (← snapshot v) with
    | some items => make (.iterator (iteratorKind owner)) (.cursor (.rest items))
    | none => notIterable r

/-- Whether an object answers to indices as a sequence does. A dictionary answers to keys, and a
class with parameters to further parameters. -/
def isSequence (r : Ref) : Eval Bool := do
  match (← special r "__getitem__") with
  | some (.member _) => do pure !(← isKind r .dict)
  | some (.native owner) => pure (owner != .dict && owner != .alias)
  | none => pure false

/-- The iterator of an object. -/
def iterator (m : Machine) (r : Ref) : Eval Ref := do
  match (← special r "__iter__") with
  | some (.member (.static .none)) => notIterable r
  | some (.member f) =>
    let it ← callMember m f r []
    match (← special it "__next__") with
    | some _ => pure it
    | none => typeError ("iter() returned non-iterator of type '" ++ (← typeName it) ++ "'")
  | some (.native owner) => nativeIterator owner r
  | none =>
    if ← isSequence r then make (.iterator .sequence) (.cursor (.asking r 0))
    else notIterable r

/-- The first item that passes a filter. -/
def firstPassing (m : Machine) (function it : Ref) : Nat → Eval (Option Ref)
  | 0 => pure none
  | fuel + 1 => do
    match (← m.advance it) with
    | none => pure none
    | some item =>
      let passes ← if function == Ref.none then truth m item
        else truth m (← m.call function [item] [])
      if passes then pure (some item) else firstPassing m function it fuel

/-- The next item of each of several iterators, as long as all of them have one. -/
def advanceAll (m : Machine) : List Ref → Eval (Option (List Ref))
  | [] => pure (some [])
  | it :: rest => do
    match (← m.advance it) with
    | none => pure none
    | some item =>
      match (← advanceAll m rest) with
      | none => pure none
      | some items => pure (some (item :: items))

/-- The next item of a built-in iterator. -/
def advanceCursor (m : Machine) (it : Ref) (c : Cursor) : Eval (Option Ref) := do
  match c with
  | .rest [] => pure none
  | .rest (item :: items) =>
    setValue it (.cursor (.rest items))
    pure (some item)
  | .index source i =>
    match (← nativeItem (← valueOf source) i) with
    | none =>
      setValue it (.cursor (.rest []))
      pure none
    | some item =>
      setValue it (.cursor (.index source (i + 1)))
      pure (some item)
  | .backwards _ 0 => pure none
  | .backwards source (left + 1) =>
    setValue it (.cursor (.backwards source left))
    nativeItem (← valueOf source) left
  | .asking source i =>
    let item ← tryCatch (do
        match (← special source "__getitem__") with
        | some (.member f) => do pure (some (← callMember m f source [← newInt i]))
        | _ => nativeItem (← valueOf source) i)
      fun e => do
        let memory ← memory
        if memory.isException e .indexError || memory.isException e .stopIteration then pure none
        else throw e
    match item with
    | none =>
      setValue it (.cursor (.rest []))
      pure none
    | some item =>
      setValue it (.cursor (.asking source (i + 1)))
      pure (some item)
  | .callable function sentinel =>
    let item ← m.call function [] []
    if ← equal m item sentinel then
      setValue it (.cursor (.rest []))
      pure none
    else pure (some item)
  | .zip [] => pure none
  | .zip iterators =>
    match (← advanceAll m iterators) with
    | none => pure none
    | some items => do pure (some (← newTuple items))
  | .map function iterators =>
    match (← advanceAll m iterators) with
    | none => pure none
    | some items => do pure (some (← m.call function items []))
  | .filter function source => firstPassing m function source iterationBound
  | .enumerate next source =>
    match (← m.advance source) with
    | none => pure none
    | some item =>
      setValue it (.cursor (.enumerate (next + 1) source))
      pure (some (← newTuple [← newInt next, item]))

/-- The next item of an iterator; `none` when it has no more. -/
def advanceIterator (m : Machine) (it : Ref) : Eval (Option Ref) := do
  match (← special it "__next__") with
  | some (.member f) =>
    rescue .stopIteration (do pure (some (← callMember m f it []))) fun _ => pure none
  | some (.native _) =>
    match (← valueOf it) with
    | .cursor c => advanceCursor m it c
    | _ => typeError ("'" ++ (← typeName it) ++ "' object is not an iterator")
  | none => typeError ("'" ++ (← typeName it) ++ "' object is not an iterator")

/-- What is left of an iterator. -/
def drain (m : Machine) (it : Ref) : Nat → Eval (List Ref)
  | 0 => raise .memoryError Text.empty
  | fuel + 1 => do
    match (← m.advance it) with
    | none => pure []
    | some item => do pure (item :: (← drain m it fuel))

/-- The items of an iterable object. -/
def iterate (m : Machine) (r : Ref) : Eval (List Ref) := do
  match (← special r "__iter__") with
  | some (.native _) =>
    match (← snapshot (← valueOf r)) with
    | some items => pure items
    | none => drain m (← iterator m r) iterationBound
  | _ => drain m (← iterator m r) iterationBound

end Eval

end EmbeddedPython
