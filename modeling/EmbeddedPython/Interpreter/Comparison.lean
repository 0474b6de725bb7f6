import EmbeddedPython.Interpreter.Lookup
import EmbeddedPython.Object.Hash

/-
  Comparison, hashes and look-up by key

  Two objects are compared by the method of the left one, then by the reflected
  method of the right one, in the other order if the right one is of a derived
  class. Equality falls back on identity; an order that nobody answers is an
  error. Containers take an object to be equal to itself without asking.
-/

namespace EmbeddedPython

namespace Eval

/-- The answer of one side of a comparison. -/
def answerBool (b : Bool) : Eval Ref := pure (Ref.ofBool b)

def noAnswer : Eval Ref := pure Ref.notImplemented

/-- The answer to a comparison of things in a given order; without an order all but `≠` is false. -/
def answerOrder (op : Comparison) (o : Option Ordering) : Eval Ref :=
  answerBool (match o with
    | some o => op.holds o
    | none => op == .ne)

/-- A comparison as containers and the host ask for it: an object is equal to itself. -/
def compareBool (m : Machine) (op : Comparison) (a b : Ref) : Eval Bool := do
  if a == b ∧ op = .eq then pure true
  else if a == b ∧ op = .ne then pure false
  else truth m (← m.compare op a b)

def equal (m : Machine) (a b : Ref) : Eval Bool := compareBool m .eq a b

/-! Native comparisons -/

/-- The order of two doubles. -/
def orderFloats (x y : Float) : Option Ordering :=
  if x < y then some .lt
  else if x == y then some .eq
  else if y < x then some .gt
  else none

/-- The order of an integer and a double. -/
def orderIntFloat (n : Int) (y : Float) : Option Ordering :=
  match Binary64.toRatio? y with
  | some (negative, num, den) =>
    some (compare (n * den) (if negative then -(num : Int) else num))
  | none => if y == y then (if y < 0.0 then some .gt else some .lt) else none

def swapOrder (o : Option Ordering) : Option Ordering := o.map Ordering.swap

/-- The order of two numbers. -/
def orderNumbers : Value → Value → Option (Option Ordering)
  | .int a, .int b => some (some (compare a b))
  | .float x, .float y => some (orderFloats x y)
  | .int a, .float y => some (orderIntFloat a y)
  | .float x, .int b => some (swapOrder (orderIntFloat b x))
  | _, _ => none

def orderPoints (a b : List Nat) : Ordering :=
  if a < b then .lt else if b < a then .gt else .eq

/-- Compares sequences: the first items that are not equal decide, or else the lengths. -/
def compareSequences (m : Machine) (op : Comparison) : List Ref → List Ref → Eval Ref
  | [], [] => answerOrder op (some .eq)
  | [], _ :: _ => answerOrder op (some .lt)
  | _ :: _, [] => answerOrder op (some .gt)
  | a :: as, b :: bs => do
    if ← equal m a b then compareSequences m op as bs
    else match op with
      | .eq => answerBool false
      | .ne => answerBool true
      | op => m.compare op a b

/-- The entry of a dictionary for a key. -/
def findEntry (m : Machine) (hash : Int) (key : Ref) : List Entry → Eval (Option Entry)
  | [] => pure none
  | e :: rest => do
    if e.key == key then pure (some e)
    else if e.hash == hash then
      if ← truth m (← m.compare .eq e.key key) then pure (some e) else findEntry m hash key rest
    else findEntry m hash key rest

/-- Whether a set has an item. -/
def findItem (m : Machine) (hash : Int) (item : Ref) : List (Int × Ref) → Eval (Option Ref)
  | [] => pure none
  | (h, r) :: rest => do
    if r == item then pure (some r)
    else if h == hash then
      if ← truth m (← m.compare .eq r item) then pure (some r) else findItem m hash item rest
    else findItem m hash item rest

/-- Whether every item of the first set is in the second. -/
def isSubset (m : Machine) (a b : List (Int × Ref)) : Eval Bool :=
  match a with
  | [] => pure true
  | (h, r) :: rest => do
    match (← findItem m h r b) with
    | some _ => isSubset m rest b
    | none => pure false

/-- Whether two dictionaries have the same entries. -/
def sameEntries (m : Machine) (b : List Entry) : List Entry → Eval Bool
  | [] => pure true
  | e :: rest => do
    match (← findEntry m e.hash e.key b) with
    | none => pure false
    | some found => if ← equal m e.value found.value then sameEntries m b rest else pure false

/-- The answer to a question about equality alone. -/
def answerEquality (op : Comparison) (same : Eval Bool) : Eval Ref := do
  match op with
  | .eq => answerBool (← same)
  | .ne => answerBool !(← same)
  | _ => noAnswer

def compareSets (m : Machine) (op : Comparison) (a b : List (Int × Ref)) : Eval Ref := do
  match op with
  | .eq => answerBool (a.length == b.length && (← isSubset m a b))
  | .ne => answerBool !(a.length == b.length && (← isSubset m a b))
  | .le => answerBool (decide (a.length ≤ b.length) && (← isSubset m a b))
  | .lt => answerBool (decide (a.length < b.length) && (← isSubset m a b))
  | .ge => answerBool (decide (b.length ≤ a.length) && (← isSubset m b a))
  | .gt => answerBool (decide (b.length < a.length) && (← isSubset m b a))

/-- Whether two ranges have the same items. -/
def sameRange (a b : Int × Int × Int) : Bool :=
  let n := rangeLength a.1 a.2.1 a.2.2
  n == rangeLength b.1 b.2.1 b.2.2 &&
    (n == 0 || (a.1 == b.1 && (n == 1 || a.2.2 == b.2.2)))

/-- The native comparison of a class. -/
def nativeCompare (m : Machine) (owner : Builtin) (op : Comparison) (a b : Ref) : Eval Ref := do
  let v ← valueOf a
  let w ← valueOf b
  match owner, v, w with
  | .int, .int x, .int y => answerOrder op (some (compare x y))
  | .float, _, _ =>
    match orderNumbers v w with
    | some o => answerOrder op o
    | none => noAnswer
  | .str, .text s, .text t => answerOrder op (some (orderPoints s.points t.points))
  | .bytes, .bytes s, .bytes t | .bytearray, .bytes s, .bytes t =>
    answerOrder op (some (orderPoints (s.map UInt8.toNat) (t.map UInt8.toNat)))
  | .tuple, .tuple s, .tuple t | .list, .list s, .list t => compareSequences m op s t
  | .dict, .dict d, .dict e =>
    answerEquality op (if d.length != e.length then pure false else sameEntries m e d)
  | .set, .set s, .set t | .frozenset, .set s, .set t => compareSets m op s t
  | .range, .range a b c, .range d e f => answerEquality op (pure (sameRange (a, b, c) (d, e, f)))
  | .slice, .slice a b c, .slice d e f => compareSequences m op [a, b, c] [d, e, f]
  | .method, .method f s, .method g t => answerEquality op (pure (f == g && s == t))
  | .nativeFunction, .nativeMethod c f s, .nativeMethod d g t =>
    answerEquality op (pure (c == d && f == g && s == t))
  | .object, _, _ =>
    match op with
    | .eq => if a == b then answerBool true else noAnswer
    | .ne =>
      -- the opposite of what `__eq__` says
      let equality ← match (← special a "__eq__") with
        | some (.member f) => callMember m f a [b]
        | some (.native .object) | none => if a == b then answerBool true else noAnswer
        | some (.native _) => m.compare .eq a b
      if equality == Ref.notImplemented then noAnswer
      else answerBool !(← truth m equality)
    | _ => noAnswer
  | _, _, _ => noAnswer

/-- What the class of the left object answers to a comparison. -/
def answerOf (m : Machine) (op : Comparison) (a b : Ref) : Eval Ref := do
  match (← special a op.methodName) with
  | some (.member f) => callMember m f a [b]
  | some (.native owner) => nativeCompare m owner op a b
  | none => noAnswer

/-- Compares two objects. -/
def richCompare (m : Machine) (op : Comparison) (a b : Ref) : Eval Ref := do
  let memory ← memory
  let derived := memory.classOf a != memory.classOf b
    && memory.isSubclass (memory.classOf b) (memory.classOf a)
  let first ← if derived then answerOf m op.reflected b a else noAnswer
  if first != Ref.notImplemented then pure first
  else
    let second ← answerOf m op a b
    if second != Ref.notImplemented then pure second
    else
      let third ← if derived then noAnswer else answerOf m op.reflected b a
      if third != Ref.notImplemented then pure third
      else match op with
        | .eq => answerBool (a == b)
        | .ne => answerBool (a != b)
        | op => typeError ("'" ++ op.spelling ++ "' not supported between instances of '"
          ++ (← typeName a) ++ "' and '" ++ (← typeName b) ++ "'")

/-! Hashes -/

def unhashable {α : Type} (r : Ref) : Eval α := do
  typeError ("unhashable type: '" ++ (← typeName r) ++ "'")

/-- A hash by identity. -/
def identityHash : Ref → Int
  | .cell id => Hash.avoid (id + 1000003)
  | .static (.builtin c) => Hash.ofText c.name
  | .static (.function m n) => Hash.ofText (m ++ "." ++ n)
  | .static (.method c n) => Hash.ofText (c.name ++ "." ++ n)
  | .static .none => 16318271
  | .static .ellipsis => 16318273
  | .static _ => 16318277

/-- The native hash of a class; `none` where it has none. -/
def nativeHash (m : Machine) (owner : Builtin) (r : Ref) : Eval (Option Int) := do
  match owner, (← valueOf r) with
  | .int, .int n => pure (some (Hash.ofInt n))
  | .float, .float x => pure (some ((Hash.ofFloat? x).getD (identityHash r)))
  | .str, .text t => pure (some (Hash.ofText t))
  | .bytes, .bytes b => pure (some (Hash.ofPoints (b.map UInt8.toNat)))
  | .tuple, .tuple items => do pure (some (Hash.ofTuple (← items.mapM m.hash)))
  | .frozenset, .set items => pure (some (Hash.ofFrozenSet (items.map (·.1))))
  | .range, .range a b c => do
    let n := rangeLength a b c
    let noneHash := identityHash Ref.none
    pure (some (Hash.ofTuple [Hash.ofInt n,
      if n = 0 then noneHash else Hash.ofInt a,
      if n < 2 then noneHash else Hash.ofInt c]))
  | .sample, _ => pure (some 42)
  | .list, _ | .dict, _ | .set, _ | .bytearray, _ | .slice, _ | .dictKeys, _ | .dictItems, _ =>
    pure none
  | _, _ => pure (some (identityHash r))

/-- The hash of an object. -/
def hashOf (m : Machine) (r : Ref) : Eval Int := do
  match (← special r "__hash__") with
  | some (.member (.static .none)) => unhashable r
  | some (.member f) =>
    match (← valueOf (← callMember m f r [])) with
    | .int n => pure (if n < minIndex ∨ maxIndex < n then Hash.ofInt n else Hash.avoid n)
    | _ => typeError "__hash__ method should return an integer"
  | some (.native owner) =>
    match (← nativeHash m owner r) with
    | some h => pure h
    | none => unhashable r
  | none => pure (identityHash r)

/-! Dictionaries and sets -/

/-- The entry of a dictionary for a key. -/
def lookupKey (m : Machine) (entries : List Entry) (key : Ref) : Eval (Option Entry) := do
  findEntry m (← m.hash key) key entries

/-- The entries with the value of a key set. A key that is there stays where it is. -/
def withEntry (m : Machine) (entries : List Entry) (key value : Ref) : Eval (List Entry) := do
  let hash ← m.hash key
  match (← findEntry m hash key entries) with
  | some found =>
    pure (entries.map fun e => if e.key == found.key then { e with value := value } else e)
  | none => pure (entries ++ [⟨hash, key, value⟩])

/-- The entries without that of a key that is there. -/
def withoutEntry (entries : List Entry) (found : Entry) : List Entry :=
  entries.filter fun e => e.key != found.key

/-- Sets the value of a key. -/
def setKey (m : Machine) (dict key value : Ref) : Eval Unit := do
  let entries ← withEntry m (← entriesOf dict) key value
  setValue dict (.dict entries)

/-- The entries that pairs of keys and values make. -/
def entriesFrom (m : Machine) (pairs : List (Ref × Ref)) : Eval (List Entry) :=
  pairs.foldlM (fun entries p => withEntry m entries p.1 p.2) []

def newDict (m : Machine) (pairs : List (Ref × Ref)) : Eval Ref := do
  make .dict (.dict (← entriesFrom m pairs))

/-- The items of a set with one more. -/
def withItem (m : Machine) (items : List (Int × Ref)) (item : Ref) : Eval (List (Int × Ref)) := do
  let hash ← m.hash item
  match (← findItem m hash item items) with
  | some _ => pure items
  | none => pure (items ++ [(hash, item)])

/-- The items that a list makes. -/
def itemsFrom (m : Machine) (items : List Ref) : Eval (List (Int × Ref)) :=
  items.foldlM (withItem m) []

/-- The value of a text key in a dictionary. -/
def lookupText (memory : Memory) (entries : List Entry) (t : Text) : Option Ref :=
  (entries.find? fun e =>
    match memory.valueOf e.key with
    | .text s => s == t
    | _ => false).map (·.value)

end Eval

end EmbeddedPython
