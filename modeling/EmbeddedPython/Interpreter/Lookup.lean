import EmbeddedPython.Interpreter.Evaluation

/-
  Looking up methods in classes

  Special methods are found in the class of an object, never in the object.
  What is found is a member that a program gave a class, or the mark that a
  built-in class has a native one of that name.
-/

namespace EmbeddedPython

/-- What a class has under a name. -/
inductive Found where
  | member (r : Ref)
  | native (owner : Builtin)
  deriving DecidableEq, Repr, Inhabited

namespace Memory

/-- What a class in a line of ancestors has under a name. -/
def findIn (m : Memory) (name : String) : List Ref → Option Found
  | [] => none
  | c :: rest =>
    match m.class? c with
    | some (.builtin b) => if b.members.contains name then some (.native b) else m.findIn name rest
    | some (.made info) =>
      match info.members.lookup name with
      | some r => some (.member r)
      | none => m.findIn name rest
    | none => m.findIn name rest

/-- What a class or its ancestors have under a name. -/
def find (m : Memory) (cls : Ref) (name : String) : Option Found := m.findIn name (m.lineage cls)

/-- What the class of an object has under a name. -/
def special (m : Memory) (r : Ref) (name : String) : Option Found := m.find (m.classOf r) name

end Memory

namespace Eval

def special (r : Ref) (name : String) : Eval (Option Found) := do pure ((← Eval.memory).special r name)

/-- Whether a member of a class is given the object that it is looked up on. -/
def binds (r : Ref) : Eval Bool := do
  match r with
  | .static (.method ..) => pure true
  | _ =>
    match (← valueOf r) with
    | .function _ => pure true
    | _ => pure false

/-- Calls a member of the class of `self`. -/
def callMember (m : Machine) (f self : Ref) (arguments : List Ref) : Eval Ref := do
  if ← binds f then m.call f (self :: arguments) []
  else m.call f arguments []

/-! Integers as indices -/

/-- The least and the greatest index. -/
def minIndex : Int := -9223372036854775808

def maxIndex : Int := 9223372036854775807

/-- The integer that an object stands for. -/
def index (m : Machine) (r : Ref) : Eval Int := do
  match (← valueOf r) with
  | .int n => pure n
  | _ =>
    match (← special r "__index__") with
    | some (.member f) =>
      let result ← callMember m f r []
      match (← valueOf result) with
      | .int n => pure n
      | _ => typeError ("__index__ returned non-int (type " ++ (← typeName result) ++ ")")
    | _ => typeError ("'" ++ (← typeName r) ++ "' object cannot be interpreted as an integer")

/-- The integer that an object stands for, if it is small enough for an index; otherwise raises
`c`. -/
def smallIndex (m : Machine) (c : ExceptionClass) (r : Ref) : Eval Int := do
  let n ← index m r
  if n < minIndex ∨ maxIndex < n then
    raise c ("cannot fit '" ++ (← typeName r) ++ "' into an index-sized integer")
  else pure n

/-- The number of steps of a range. -/
def rangeLength (start stop step : Int) : Nat :=
  if 0 < step then
    if start < stop then ((stop - start - 1) / step + 1).toNat else 0
  else if step < 0 then
    if stop < start then ((start - stop - 1) / (-step) + 1).toNat else 0
  else 0

/-- The items of a dictionary. -/
def entriesOf (r : Ref) : Eval (List Entry) := do
  match (← valueOf r) with
  | .dict entries => pure entries
  | _ => pure []

/-- The number of items of a built-in container. -/
def nativeLength (v : Value) : Eval (Option Nat) :=
  match v with
  | .text t => pure (some t.length)
  | .bytes b => pure (some b.length)
  | .tuple items | .list items => pure (some items.length)
  | .dict entries => pure (some entries.length)
  | .set items => pure (some items.length)
  | .range a b c => pure (some (rangeLength a b c))
  | .view _ d => do pure (some (← entriesOf d).length)
  | _ => pure none

/-- The length that a `__len__` of a program answers. -/
def lengthFrom (m : Machine) (f r : Ref) : Eval Int := do
  let n ← index m (← callMember m f r [])
  if n < 0 then valueError "__len__() should return >= 0"
  else if maxIndex < n then
    raise .overflowError "cannot fit 'int' into an index-sized integer"
  else pure n

/-- The length of an object. -/
def length (m : Machine) (r : Ref) : Eval Int := do
  match (← special r "__len__") with
  | some (.member f) => lengthFrom m f r
  | some (.native _) =>
    match (← nativeLength (← valueOf r)) with
    | some n =>
      if maxIndex < (n : Int) then
        raise .overflowError "Python int too large to convert to C ssize_t"
      else pure n
    | none => pure 0
  | none => typeError ("object of type '" ++ (← typeName r) ++ "' has no len()")

/-- The truth of an object. -/
def truth (m : Machine) (r : Ref) : Eval Bool := do
  match r with
  | .static (.truth b) => pure b
  | .static .none => pure false
  | _ =>
    match (← special r "__bool__") with
    | some (.member f) =>
      match (← callMember m f r []) with
      | .static (.truth b) => pure b
      | other => typeError ("__bool__ should return bool, returned " ++ (← typeName other))
    | some (.native _) =>
      match (← valueOf r) with
      | .int n => pure (n != 0)
      | .float x => pure (x != 0.0)
      | .range a b c => pure (rangeLength a b c != 0)
      | _ => pure true
    | none =>
      match (← special r "__len__") with
      | some (.member f) => do pure ((← lengthFrom m f r) != 0)
      | some (.native _) =>
        match (← nativeLength (← valueOf r)) with
        | some n => pure (n != 0)
        | none => pure true
      | none => pure true

end Eval

end EmbeddedPython
