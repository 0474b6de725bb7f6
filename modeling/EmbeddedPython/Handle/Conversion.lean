import EmbeddedPython.Handle.Access
import EmbeddedPython.Interpreter.Application

/-
  Conversion between values of the host and objects

  Conversions are strict: a float is no integer, a truth value is no number and
  a text is no sequence. `HostValue.toHandle` makes a new object of a value,
  and `Handle.extract` reads a value of a given type.
-/

namespace EmbeddedPython

/-- The types that can be read from objects. -/
inductive HostType where
  /-- integers of 64 bits -/
  | int64
  /-- integers of 32 bits -/
  | int32
  | float
  | truth
  | text
  | unit
  | handle
  | option (t : HostType)
  | list (t : HostType)
  deriving DecidableEq, Repr, Inhabited

/-- A value of the host. -/
inductive HostValue where
  | int (n : Int)
  /-- a length -/
  | size (n : Nat)
  | float (x : Float)
  | truth (b : Bool)
  | text (s : String)
  | unit
  | handle (x : Handle)
  | none
  | some (v : HostValue)
  | list (items : List HostValue)
  deriving Inhabited

namespace HostType

/-- The number of bytes that a value of the type takes up in a list. -/
def width : HostType → Nat
  | int64 | float => 8
  | int32 => 4
  | truth => 1
  | text | list _ => 24
  | unit => 0
  | handle => 16
  | option t =>
    match t with
    | int64 | float => 16
    | int32 => 8
    | unit => 1
    | t => t.width

/-- The greatest number of bytes that a list may take up. -/
def greatestSize : Nat := 9223372036854775807

end HostType

namespace Handle

/-- The handles inside a value are dropped with it. -/
def dropValue : HostValue → Op Unit
  | .handle x => x.drop
  | .some v => dropValue v
  | .list items => dropValues items
  | _ => pure ()
where
  /-- Drops values in order. -/
  dropValues : List HostValue → Op Unit
    | [] => pure ()
    | v :: rest => do
      dropValue v
      dropValues rest

end Handle

namespace HostValue

open Op (request askDone)

mutual

/-- A new object of a value. -/
def toHandle : HostValue → Op Handle
  | .int n => Op.guarded (request [] (Eval.newInt n))
  | .size n =>
    if 9223372036854775807 < n then
      Op.fail (.invalidArgument (toString n ++ " does not fit in i64"))
    else Op.guarded (request [] (Eval.newInt n))
  | .float x => Op.guarded (request [] (Eval.newFloat x))
  | .truth b => pure (Handle.ofBool b)
  | .text s => Op.guarded (request [] (Eval.newString s))
  | .unit | .none => pure Handle.none
  | .handle x => x.clone
  | .some v => v.toHandle
  | .list items => Op.guarded do
    let list ← request [] (Eval.newList [])
    Op.onFailure (appendAll list items) list.drop
    pure list

/-- Appends the objects of values to a list. -/
def appendAll (list : Handle) : List HostValue → Op Unit
  | [] => pure ()
  | v :: rest => do
    Handle.spend (← v.toHandle) fun item =>
      askDone [list.ref, item.ref] (do
        match (← Eval.valueOf list.ref) with
        | .list items => Eval.setValue list.ref (.list (items ++ [item.ref]))
        | _ => pure ())
    appendAll list rest

end

end HostValue

namespace Eval

/-- The integer of 64 bits that an integer object stands for. -/
def int64Of (r : Ref) : Eval Int := do
  match (← valueOf r) with
  | .int n =>
    if n < minIndex ∨ maxIndex < n then raise .overflowError "int too big to convert" else pure n
  | _ => pure 0

/-- The double that a number stands for. A float is not asked. -/
def doubleOf (m : Machine) (r : Ref) : Eval Float := do
  match (← isKind r .float), (← valueOf r) with
  | true, .float x => pure x
  | _, _ => realNumber m r

end Eval

namespace Handle

open Op (request ask askNumber)

/-- Fails because an object has another type than the one asked for. -/
def mismatch {α : Type} (expected : String) (x : Handle) : Op α := do
  let actual ← Op.orElse unknownType x.typeName
  Op.fail (.conversion expected actual)

/-- Whether an object is of a kind, asked through the interpreter. -/
def isKind (r : Ref) (c : Builtin) : Op Bool := do pure ((← Op.memory).isKind r c)

/-- Reads an integer of 64 bits. -/
def readInt (x : Handle) : Op Int := do
  let r ← x.live
  Op.guarded do
    Op.passing [r]
    if !(← isKind r .int) || (← isKind r .bool) then x.mismatch "int"
    else askNumber (-1) [r] (Eval.int64Of r)

/-- Reads a float. Integers are widened. -/
def readFloat (x : Handle) : Op Float := do
  let r ← x.live
  Op.guarded do
    Op.passing [r]
    if !(← isKind r .float) && (!(← isKind r .int) || (← isKind r .bool)) then x.mismatch "float"
    else askNumber (-1) [r] (Eval.doubleOf Machine.top r)

def readTruth (x : Handle) : Op Bool := do
  let r ← x.live
  Op.guarded do
    Op.passing [r]
    if !(← isKind r .bool) then x.mismatch "bool" else x.isTruthy

def readText (x : Handle) : Op String := do
  let r ← x.live
  Op.guarded do
    Op.passing [r]
    if !(← isKind r .str) then x.mismatch "str" else ask [r] (Eval.utf8Of r)

/-- Reads the items of a sequence from an index on, each with the given reader. -/
def readItems (read : Handle → Op HostValue) (r : Ref) : Nat → Nat → Op (List HostValue)
  | _, 0 => pure []
  | i, left + 1 => do
    let v ← spend (← request [r] (Eval.sequenceItemAt Machine.top r i)) read
    pure (v :: (← Op.onFailure (readItems read r (i + 1) left) (dropValue v)))

/-- Reads a sequence. Room for all its items is made at the start. -/
def readList (width : Nat) (read : Handle → Op HostValue) (x : Handle) :
    Op (List HostValue) := do
  let r ← x.live
  Op.guarded do
    Op.passing [r]
    let isSequence ← ask [r] (Eval.isSequence r)
    if !isSequence || (← isKind r .str) then x.mismatch "sequence"
    else
      let n ← Op.enterOr (-1) [r] (Eval.length Machine.top r)
      if n < 0 then do Op.fail (← Op.translate)
      else if HostType.greatestSize < n.toNat * width then Op.panic "capacity overflow"
      else readItems read r 0 n.toNat

/-- The item of an object for a key. -/
def getItem (x : Handle) (key : HostValue) : Op Handle := do
  let r ← x.live
  Op.guarded do
    spend (← key.toHandle) fun key =>
      request [r, key.ref] (Eval.getItem Machine.top r key.ref)

/-- Reads a value of a type. -/
def extract (x : Handle) : HostType → Op HostValue
  | .int64 => do pure (.int (← x.readInt))
  | .int32 => do
    let n ← x.readInt
    if n < -2147483648 ∨ 2147483647 < n then
      Op.fail (.conversion "i32" ("int " ++ toString n))
    else pure (.int n)
  | .float => do pure (.float (← x.readFloat))
  | .truth => do pure (.truth (← x.readTruth))
  | .text => do pure (.text (← x.readText))
  | .unit => if x.isNone then pure .unit else x.mismatch "None"
  | .handle => do pure (.handle (← x.clone))
  | .option t => do
    if x.isNone then pure .none else pure (.some (← x.extract t))
  | .list t => do pure (.list (← x.readList t.width (fun item => item.extract t)))

end Handle

end EmbeddedPython
