import EmbeddedPython.Interpreter.Arithmetic

/-
  Items

  Reading, setting and deleting items by index, slice and key, and membership.
  An index counts from the end when it is negative.
-/

namespace EmbeddedPython

namespace Eval

/-! Slices -/

/-- A bound of a slice; `none` where it is left out. -/
def sliceBound (m : Machine) (r : Ref) : Eval (Option Int) := do
  if r == Ref.none then pure none
  else
    let counts ← match (← valueOf r) with
      | .int _ => pure true
      | _ => do pure (← special r "__index__").isSome
    if counts then
      let n ← index m r
      pure (some (max minIndex (min maxIndex n)))
    else typeError "slice indices must be integers or None or have an __index__ method"

/-- A bound of a slice of a sequence of `size` items, moved into `low` … `high`. -/
def clampBound (size low high n : Int) : Int :=
  let n := if n < 0 then n + size else n
  if n < low then low else if high < n then high else n

/-- The start, step and length of a slice of a sequence of `size` items. -/
def sliceIndices (m : Machine) (start stop step : Ref) (size : Nat) : Eval (Int × Int × Nat) := do
  let step := (← sliceBound m step).getD 1
  if step = 0 then valueError "slice step cannot be zero"
  let (low, high) : Int × Int := if step < 0 then (-1, size - 1) else (0, size)
  let start := match (← sliceBound m start) with
    | some n => clampBound size low high n
    | none => if step < 0 then high else low
  let stop := match (← sliceBound m stop) with
    | some n => clampBound size low high n
    | none => if step < 0 then low else high
  pure (start, step, rangeLength start stop step)

/-- The items of a list that a slice selects. -/
def selected {α : Type} (items : Array α) (start step : Int) (count : Nat) : List α :=
  (List.range count).filterMap fun (i : Nat) => items[(start + i * step).toNat]?

/-! Reading -/

/-- What an index may be, by the kind of sequence. -/
def indexError {α : Type} (owner : Builtin) (r : Ref) : Eval α := do
  let found ← typeName r
  match owner with
  | .str => typeError ("string indices must be integers, not '" ++ found ++ "'")
  | .bytes => typeError ("byte indices must be integers or slices, not " ++ found)
  | owner => typeError (owner.name ++ " indices must be integers or slices, not " ++ found)

/-- The text of an index that is out of range, by the kind of sequence. -/
def outOfRange : Builtin → String
  | .str => "string index out of range"
  | .bytes => "index out of range"
  | .range => "range object index out of range"
  | owner => owner.name ++ " index out of range"

/-- The item of a native sequence at an index. -/
def itemAt (owner : Builtin) (v : Value) (i : Int) : Eval Ref := do
  let item ← if i < 0 then pure none else nativeItem v i.toNat
  match item with
  | some r => pure r
  | none => raise .indexError (outOfRange owner)

/-- The slice of a native sequence. -/
def sliceOf (m : Machine) (owner : Builtin) (v : Value) (start stop step : Ref) : Eval Ref := do
  let size := (← nativeLength v).getD 0
  let (start, step, count) ← sliceIndices m start stop step size
  match v with
  | .list items => newList (selected items.toArray start step count)
  | .tuple items => newTuple (selected items.toArray start step count)
  | .text t => newText ⟨selected t.points.toArray start step count⟩
  | .bytes b =>
    let part := selected b.toArray start step count
    if owner = .bytearray then make .bytearray (.bytes part) else newBytes part
  | .range a _ c =>
    make .range (.range (a + start * c) (a + (start + count * step) * c) (c * step))
  | _ => pure Ref.none

/-- The item of a native sequence for a key. -/
def sequenceItem (m : Machine) (owner : Builtin) (r key : Ref) : Eval Ref := do
  let v ← valueOf r
  match (← valueOf key) with
  | .slice start stop step => sliceOf m owner v start stop step
  | keyValue =>
    let counts ← match keyValue with
      | .int _ => pure true
      | _ => do pure (← special key "__index__").isSome
    if !counts then indexError owner key
    else
      let size : Int := (← nativeLength v).getD 0
      let i ← if owner = .range then index m key else smallIndex m .indexError key
      itemAt owner v (if i < 0 then i + size else i)

/-- The value of a key in a native dictionary. -/
def dictItem (m : Machine) (r key : Ref) : Eval Ref := do
  match (← lookupKey m (← entriesOf r) key) with
  | some e => pure e.value
  | none =>
    match (← special r "__missing__") with
    | some (.member f) => callMember m f r [key]
    | _ => keyError key

/-- Whether a class makes those that descend from it take parameters. -/
def isGenericClass : Ref → Bool
  | .static (.builtin c) => c != .type && c.isGeneric
  | _ => false

/-- The item of an object for a key. -/
def getItem (m : Machine) (r key : Ref) : Eval Ref := do
  match (← special r "__getitem__") with
  | some (.member f) => callMember m f r [key]
  | some (.native .dict) => dictItem m r key
  | some (.native .alias) => do raise .typeError ((← m.repr r) ++ " is not a generic class")
  | some (.native owner) => sequenceItem m owner r key
  | none =>
    let memory ← memory
    match memory.class? r with
    | some _ =>
      match memory.find r "__class_getitem__", memory.valueOf key with
      | some (.member f), _ => callMember m f r [key]
      | _, value =>
        let parameters := match value with
          | .tuple items => items
          | _ => [key]
        if r == Ref.ofBuiltin .type || (memory.lineage r).any isGenericClass then
          make .alias (.alias r parameters)
        else typeError ("type '" ++ memory.className r ++ "' is not subscriptable")
    | none => typeError ("'" ++ memory.typeName r ++ "' object is not subscriptable")

/-- The item of a sequence at an index that is not negative. -/
def sequenceItemAt (m : Machine) (r : Ref) (i : Nat) : Eval Ref := do
  match (← special r "__getitem__") with
  | some (.member f) => callMember m f r [← newInt i]
  | some (.native owner) => itemAt owner (← valueOf r) i
  | none => typeError ("'" ++ (← typeName r) ++ "' object does not support indexing")

/-! Setting and deleting -/

/-- The position of an index in a list. -/
def position (m : Machine) (key : Ref) (size : Nat) (what : String) : Eval Nat := do
  let i ← smallIndex m .indexError key
  let i := if i < 0 then i + size else i
  if i < 0 ∨ (size : Int) ≤ i then raise .indexError what else pure i.toNat

/-- A list with the items that a slice selects replaced. -/
def spliced {α : Type} (items : List α) (start step : Int) (count : Nat) (new : List α) :
    Option (List α) :=
  if step = 1 then some (items.take start.toNat ++ new ++ items.drop (start.toNat + count))
  else if new.length ≠ count then none
  else
    let places := (List.range count).map fun (i : Nat) => (start + i * step).toNat
    some ((places.zip new).foldl (fun acc p => acc.set p.1 p.2) items)

def setItem (m : Machine) (r key value : Ref) : Eval Unit := do
  match (← special r "__setitem__") with
  | some (.member f) => do
    let _ ← callMember m f r [key, value]
    pure ()
  | _ =>
    match (← valueOf r), (← valueOf key) with
    | .dict _, _ => setKey m r key value
    | .list items, .slice start stop step => do
      let (a, s, n) ← sliceIndices m start stop step items.length
      let new ← iterate m value
      match spliced items a s n new with
      | some items => setValue r (.list items)
      | none =>
        valueError ("attempt to assign sequence of size " ++ toString new.length
          ++ " to extended slice of size " ++ toString n)
    | .list items, _ =>
      let counts := (← special key "__index__").isSome
      if !counts then indexError .list key
      else do
        let i ← position m key items.length "list assignment index out of range"
        setValue r (.list (items.set i value))
    | .bytes b, _ => do
      if ← isKind r .bytearray then
        let i ← position m key b.length "bytearray index out of range"
        let n ← index m value
        if n < 0 ∨ 255 < n then valueError "byte must be in range(0, 256)"
        else setValue r (.bytes (b.set i (UInt8.ofNat n.toNat)))
      else typeError ("'" ++ (← typeName r) ++ "' object does not support item assignment")
    | _, _ => typeError ("'" ++ (← typeName r) ++ "' object does not support item assignment")

def deleteItem (m : Machine) (r key : Ref) : Eval Unit := do
  match (← special r "__delitem__") with
  | some (.member f) => do
    let _ ← callMember m f r [key]
    pure ()
  | _ =>
    match (← valueOf r), (← valueOf key) with
    | .dict entries, _ =>
      match (← lookupKey m entries key) with
      | some e => setValue r (.dict (withoutEntry entries e))
      | none => keyError key
    | .list items, .slice start stop step => do
      let (a, s, n) ← sliceIndices m start stop step items.length
      let places := (List.range n).map fun (i : Nat) => (a + i * s).toNat
      let kept := (items.zipIdx.filter fun p => !places.contains p.2).map (·.1)
      setValue r (.list kept)
    | .list items, _ => do
      let i ← position m key items.length "list assignment index out of range"
      setValue r (.list (items.eraseIdx i))
    | _, _ => typeError ("'" ++ (← typeName r) ++ "' object doesn't support item deletion")

/-! Membership -/

/-- Whether a list stands somewhere in another. -/
def occursIn {α : Type} [BEq α] (part : List α) : List α → Bool
  | [] => part.isEmpty
  | c :: rest => part.isPrefixOf (c :: rest) || occursIn part rest

/-- Whether an object is equal to one of a list. -/
def isAmong (m : Machine) (r : Ref) : List Ref → Eval Bool
  | [] => pure false
  | a :: rest => do
    if ← equal m a r then pure true else isAmong m r rest

def contains (m : Machine) (container r : Ref) : Eval Bool := do
  match (← special container "__contains__") with
  | some (.member f) => do truth m (← callMember m f container [r])
  | some (.native _) =>
    match (← valueOf container), (← valueOf r) with
    | .text t, .text s => pure (occursIn s.points t.points)
    | .text _, _ =>
      typeError ("'in <string>' requires string as left operand, not " ++ (← typeName r))
    | .bytes b, .bytes s => pure (occursIn s b)
    | .bytes b, .int n =>
      if n < 0 ∨ 255 < n then valueError "byte must be in range(0, 256)"
      else pure (b.contains (UInt8.ofNat n.toNat))
    | .bytes _, _ => typeError ("a bytes-like object is required, not '" ++ (← typeName r) ++ "'")
    | .dict entries, _ => do pure (← lookupKey m entries r).isSome
    | .set items, _ => do pure (← findItem m (← m.hash r) r items).isSome
    | .range a b c, .int n =>
      let count := rangeLength a b c
      pure (count != 0 && Int.emod (n - a) c == 0 && decide (0 ≤ Int.fdiv (n - a) c)
        && decide (Int.fdiv (n - a) c < count))
    | .view .keys d, _ => do pure (← lookupKey m (← entriesOf d) r).isSome
    | _, _ => do isAmong m r (← iterate m container)
  | none =>
    if (← special container "__iter__").isSome || (← isSequence container) then
      isAmong m r (← iterate m container)
    else typeError ("argument of type '" ++ (← typeName container) ++ "' is not iterable")

end Eval

end EmbeddedPython
