/-
  The order of sets

  A set keeps its items in a table of a power of two slots and is run through
  in the order of the slots. An item goes to the slot of its hash; when that is
  taken, to one of the next nine, and then on through the slots in an order
  that the hash determines. A table that is three fifths full is replaced by a
  larger one, which the items enter in the order of the old one.
-/

namespace EmbeddedPython.SlotTable

variable {α : Type}

/-- How many slots are tried in a row. -/
def run : Nat := 9

/-- The first free slot of the `count + 1` ones from `i` on. -/
def freeInRow (table : Array (Option (Int × α))) (i : Nat) : Nat → Option Nat
  | 0 => if (table.getD i none).isNone then some i else none
  | count + 1 =>
    if (table.getD i none).isNone then some i else freeInRow table (i + 1) count

/-- The slot of a new item. -/
def freeSlot (table : Array (Option (Int × α))) : Nat → Nat → Nat → Option Nat
  | 0, _, _ => none
  | fuel + 1, i, perturb =>
    let mask := table.size - 1
    match freeInRow table i (if i + run ≤ mask then run else 0) with
    | some slot => some slot
    | none =>
      let perturb := perturb / 32
      freeSlot table fuel ((i * 5 + 1 + perturb) % table.size) perturb

/-- Puts an item into its slot. -/
def enter (table : Array (Option (Int × α))) (item : Int × α) : Array (Option (Int × α)) :=
  let hash := (item.1 % Int.pow 2 64).toNat
  match freeSlot table (2 * table.size + 64) (hash % table.size) hash with
  | some slot => table.setIfInBounds slot (some item)
  | none => table

/-- The size of a table for more than `count` items: a power of two, at least eight. -/
def sizeAbove (count : Nat) : Nat := if count < 8 then 8 else Nat.pow 2 (Nat.log2 count + 1)

/-- Adds an item that is not there yet, as the one of number `count`. -/
def add (table : Array (Option (Int × α))) (count : Nat) (item : Int × α) :
    Array (Option (Int × α)) :=
  let table := enter table item
  if count * 5 < (table.size - 1) * 3 then table
  else
    (table.toList.filterMap id).foldl enter
      (Array.replicate (sizeAbove (if 50000 < count then count * 2 else count * 4)) none)

/-- The items of a set, given as they were added, in the order of their slots. -/
def order (items : List (Int × α)) : List α :=
  let (table, _) := items.foldl (fun (acc : Array (Option (Int × α)) × Nat) item =>
    (add acc.1 (acc.2 + 1) item, acc.2 + 1)) (Array.replicate 8 none, 0)
  table.toList.filterMap fun e => e.map (·.2)

end EmbeddedPython.SlotTable
