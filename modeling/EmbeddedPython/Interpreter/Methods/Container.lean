import EmbeddedPython.Interpreter.Methods.Text

/-
  Methods of containers

  Lists, tuples, ranges, dictionaries and sets. Sorting is stable and asks for
  the order of two items by `<` alone.
-/

namespace EmbeddedPython

namespace Eval

/-! Sorting -/

/-- Puts an item with its key into a sorted list, after the items that it is not less than. -/
def insertSorted (m : Machine) (item : Ref × Ref) : List (Ref × Ref) → Eval (List (Ref × Ref))
  | [] => pure [item]
  | other :: rest => do
    if ← truth m (← m.compare .lt item.1 other.1) then pure (item :: other :: rest)
    else do pure (other :: (← insertSorted m item rest))

/-- Items sorted by their keys. -/
def sortedItems (m : Machine) (items : List Ref) (key : Option Ref) (backwards : Bool) :
    Eval (List Ref) := do
  let keyed ← items.mapM fun r => do
    match key with
    | none | some (.static .none) => pure (r, r)
    | some f => do pure (← m.call f [r] [], r)
  let keyed := if backwards then keyed.reverse else keyed
  let sorted ← keyed.foldlM (fun acc p => insertSorted m p acc) []
  let result := sorted.map (·.2)
  pure (if backwards then result.reverse else result)

/-- The key and the direction that the keywords of a sort give. -/
def sortOptions (m : Machine) (name : String) (keywords : List (Text × Ref)) :
    Eval (Option Ref × Bool) := do
  match (← fillNamed name ["key", "reverse"] [] keywords) with
  | key :: backwards :: _ => do
    let b ← match backwards with
      | some r => truth m r
      | none => pure false
    pure (key, b)
  | _ => pure (none, false)

/-! Lists and tuples -/

/-- Where an object first stands among items, counted from `i`. -/
def positionOf (m : Machine) (r : Ref) (i : Nat) : List Ref → Eval (Option Nat)
  | [] => pure none
  | a :: rest => do if ← equal m a r then pure (some i) else positionOf m r (i + 1) rest

def occurrences (m : Machine) (r : Ref) : List Ref → Eval Nat
  | [] => pure 0
  | a :: rest => do
    let here ← equal m a r
    pure ((if here then 1 else 0) + (← occurrences m r rest))

/-- A method that lists and tuples share. -/
def itemsMethod (m : Machine) (self : Ref) (owner name : String) (items : List Ref)
    (arguments : List Ref) : Eval (Option Ref) := do
  match name with
  | "count" => do
    let r ← oneArgument owner name arguments
    pure (some (← newInt (← occurrences m r items)))
  | "index" => do
    checkCount name 1 3 arguments.length
    match arguments with
    | r :: rest => do
      for r in rest do
        match (← valueOf r), (← special r "__index__") with
        | .int _, _ | _, some _ => pure ()
        | _, none => typeError "slice indices must be integers or have an __index__ method"
      let (start, stop) ← boundsOf m rest items.length
      match (← positionOf m r start ((items.take stop).drop start)) with
      | some i => do pure (some (← newInt i))
      | none =>
        if owner == "tuple" then valueError "tuple.index(x): x not in tuple"
        else raise .valueError ((← m.repr r) ++ " is not in list")
    | [] => pure none
  | _ => let _ := self; pure none

def listMethod (m : Machine) (self : Ref) (name : String) (items : List Ref)
    (arguments : List Ref) (keywords : List (Text × Ref)) : Eval (Option Ref) := do
  let done := fun (items : List Ref) => do
    setValue self (.list items)
    pure (some Ref.none)
  match name with
  | "append" => do done (items ++ [← oneArgument "list" name arguments])
  | "extend" => do done (items ++ (← iterate m (← oneArgument "list" name arguments)))
  | "clear" => do
    noArguments "list" name arguments
    done []
  | "copy" => do
    noArguments "list" name arguments
    pure (some (← newList items))
  | "reverse" => do
    noArguments "list" name arguments
    done items.reverse
  | "insert" => do
    checkCount name 2 2 arguments.length
    match arguments with
    | i :: r :: _ => do
      let i ← smallIndex m .overflowError i
      let at' := (clampBound items.length 0 items.length i).toNat
      done (items.take at' ++ r :: items.drop at')
    | _ => pure none
  | "pop" => do
    checkCount name 0 1 arguments.length
    let i ← match arguments with
      | [] => pure (-1)
      | i :: _ => smallIndex m .indexError i
    if items.isEmpty then raise .indexError "pop from empty list"
    else
      let i := if i < 0 then i + items.length else i
      match (if i < 0 then none else items[i.toNat]?) with
      | none => raise .indexError "pop index out of range"
      | some r => do
        setValue self (.list (items.eraseIdx i.toNat))
        pure (some r)
  | "remove" => do
    let r ← oneArgument "list" name arguments
    match (← positionOf m r 0 items) with
    | some i => done (items.eraseIdx i)
    | none => valueError "list.remove(x): x not in list"
  | "sort" => do
    if !arguments.isEmpty then typeError "sort() takes no positional arguments"
    let (key, backwards) ← sortOptions m "sort" keywords
    done (← sortedItems m items key backwards)
  | _ => itemsMethod m self "list" name items arguments

def rangeMethod (m : Machine) (self : Ref) (name : String) (start stop step : Int)
    (arguments : List Ref) : Eval (Option Ref) := do
  match name with
  | "count" | "index" => do
    let r ← oneArgument "range" name arguments
    let found ← match (← valueOf r) with
      | .int _ => contains m self r
      | _ => pure false
    if name == "count" then do pure (some (← newInt (if found then 1 else 0)))
    else if found then
      match (← valueOf r) with
      | .int n => do pure (some (← newInt (Int.fdiv (n - start) step)))
      | _ => pure none
    else
      let _ := stop
      match (← valueOf r) with
      | .int _ => raise .valueError ((← m.repr r) ++ " is not in range")
      | _ => valueError "sequence.index(x): x not in sequence"
  | _ => pure none

/-! Dictionaries -/

def dictMethod (m : Machine) (self : Ref) (name : String) (entries : List Entry)
    (arguments : List Ref) (keywords : List (Text × Ref)) : Eval (Option Ref) := do
  let done := fun (entries : List Entry) => do
    setValue self (.dict entries)
    pure (some Ref.none)
  match name with
  | "keys" => do
    noArguments "dict" name arguments
    pure (some (← make .dictKeys (.view .keys self)))
  | "values" => do
    noArguments "dict" name arguments
    pure (some (← make .dictValues (.view .values self)))
  | "items" => do
    noArguments "dict" name arguments
    pure (some (← make .dictItems (.view .items self)))
  | "get" => do
    checkCount name 1 2 arguments.length
    match arguments with
    | key :: rest => do
      match (← lookupKey m entries key) with
      | some e => pure (some e.value)
      | none => pure (some (rest.headD Ref.none))
    | [] => pure none
  | "setdefault" => do
    checkCount name 1 2 arguments.length
    match arguments with
    | key :: rest => do
      match (← lookupKey m entries key) with
      | some e => pure (some e.value)
      | none => do
        let value := rest.headD Ref.none
        setValue self (.dict (← withEntry m entries key value))
        pure (some value)
    | [] => pure none
  | "pop" => do
    checkCount name 1 2 arguments.length
    match arguments with
    | key :: rest => do
      match (← lookupKey m entries key), rest with
      | some e, _ => do
        setValue self (.dict (withoutEntry entries e))
        pure (some e.value)
      | none, r :: _ => pure (some r)
      | none, [] => keyError key
    | [] => pure none
  | "popitem" => do
    noArguments "dict" name arguments
    match entries.getLast? with
    | some e => do
      setValue self (.dict entries.dropLast)
      pure (some (← newTuple [e.key, e.value]))
    | none => do keyError (← newString "popitem(): dictionary is empty")
  | "clear" => do
    noArguments "dict" name arguments
    done []
  | "copy" => do
    noArguments "dict" name arguments
    pure (some (← make .dict (.dict entries)))
  | "update" => do
    checkCount name 0 1 arguments.length
    done (← updatedEntries m entries arguments.head? keywords)
  | _ => pure none

/-- A new dictionary with one value for several keys. -/
def dictFromKeys (m : Machine) (arguments : List Ref) : Eval Ref := do
  checkCount "fromkeys" 1 2 arguments.length
  match arguments with
  | keys :: rest => do
    newDict m ((← iterate m keys).map fun k => (k, rest.headD Ref.none))
  | [] => pure Ref.none

/-! Sets -/

/-- The items of any iterable, as those of a set. -/
def setItems (m : Machine) (r : Ref) : Eval (List (Int × Ref)) := do
  match (← valueOf r) with
  | .set items => pure items
  | _ => do itemsFrom m (← iterate m r)

def setMethod (m : Machine) (self : Ref) (frozen : Bool) (name : String)
    (items : List (Int × Ref)) (arguments : List Ref) : Eval (Option Ref) := do
  let owner := if frozen then "frozenset" else "set"
  let done := fun (items : List (Int × Ref)) => do
    setValue self (.set items)
    pure (some Ref.none)
  let fresh := fun (items : List (Int × Ref)) => do pure (some (← newSet frozen items))
  let combine := fun (f : List (Int × Ref) → List (Int × Ref) → Eval (List (Int × Ref))) =>
    arguments.foldlM (fun acc r => do f acc (← setItems m r)) items
  let union := fun (a b : List (Int × Ref)) => do pure (a ++ (← filterItems m false a b))
  let minus := fun (a b : List (Int × Ref)) => filterItems m false b a
  let both := fun (a b : List (Int × Ref)) => filterItems m true b a
  match name with
  | "add" => do done (← withItem m items (← oneArgument owner name arguments))
  | "discard" | "remove" => do
    let r ← oneArgument owner name arguments
    match (← findItem m (← m.hash r) r items) with
    | some found => done (items.filter fun p => p.2 != found)
    | none => if name == "remove" then keyError r else pure (some Ref.none)
  | "pop" => do
    noArguments owner name arguments
    match SlotTable.order items with
    | r :: _ => do
      setValue self (.set (items.filter fun p => p.2 != r))
      pure (some r)
    | [] => do keyError (← newString "pop from an empty set")
  | "clear" => do
    noArguments owner name arguments
    done []
  | "copy" => do
    noArguments owner name arguments
    fresh items
  | "union" => do fresh (← combine union)
  | "intersection" => do fresh (← combine both)
  | "difference" => do fresh (← combine minus)
  | "symmetric_difference" => do
    let other ← setItems m (← oneArgument owner name arguments)
    fresh ((← minus items other) ++ (← minus other items))
  | "update" => do done (← combine union)
  | "intersection_update" => do done (← combine both)
  | "difference_update" => do done (← combine minus)
  | "issubset" => do
    pure (some (Ref.ofBool (← isSubset m items (← setItems m (← oneArgument owner name arguments)))))
  | "issuperset" => do
    pure (some (Ref.ofBool (← isSubset m (← setItems m (← oneArgument owner name arguments)) items)))
  | "isdisjoint" => do
    let other ← setItems m (← oneArgument owner name arguments)
    pure (some (Ref.ofBool (← filterItems m true other items).isEmpty))
  | _ => pure none

end Eval

end EmbeddedPython
