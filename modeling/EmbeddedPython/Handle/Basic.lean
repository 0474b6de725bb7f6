import EmbeddedPython.Host.Basic
import EmbeddedPython.Text.Quoted

/-
  Handles

  A handle owns one reference to an object. It is disposed of once, explicitly
  or when it is dropped, and gives its reference back then. Handles to the
  singletons own nothing.
-/

namespace EmbeddedPython

/-- An owned reference to an object. -/
structure Handle where
  ref : Ref
  disposed : Bool
  deriving DecidableEq, Repr, Inhabited

namespace Handle

/-- A handle to a reference that the host owns already. -/
def adopt (r : Ref) : Handle := ⟨r, false⟩

def none : Handle := adopt Ref.none

def ofBool (b : Bool) : Handle := adopt (Ref.ofBool b)

/-- Whether the handle is to a singleton. -/
def isImmortal (x : Handle) : Bool := x.ref.isImmortal

/-- Identity of the objects. -/
def isSame (x y : Handle) : Bool := x.ref == y.ref

def isNone (x : Handle) : Bool := x.ref == Ref.none

/-- The reference, unless the handle has been disposed of. -/
def live (x : Handle) : Op Ref := if x.disposed then Op.fail .disposed else pure x.ref

/-- Gives the reference back. Disposing twice does nothing; after the interpreter is gone there is
nothing to give back. -/
def dispose (x : Handle) : Op Handle := do
  if x.disposed then pure x
  else
    if !x.isImmortal && (← Op.host).lock.alive then
      Op.guarded do
        Op.passing [x.ref]
        Op.letGo x.ref
    pure { x with disposed := true }

/-- Disposes of a handle that nobody can use any more. -/
def drop (x : Handle) : Op Unit := do
  let _ ← x.dispose
  pure ()

def dropAll (xs : List Handle) : Op Unit := xs.forM drop

/-- Uses a handle and drops it afterwards, whatever came of it. -/
def spend {α : Type} (x : Handle) (body : Handle → Op α) : Op α :=
  Op.ensuring (body x) x.drop

/-- Another handle to the same object. -/
def clone (x : Handle) : Op Handle := do
  let r ← x.live
  if !x.isImmortal then
    Op.guarded do
      Op.passing [r]
      Op.hold r
  pure (adopt r)

end Handle

/-- A text for the interpreter to read up to its first null character; there must be none. -/
def terminated (s : String) : Except Error String :=
  if s.toList.contains '\x00' then
    .error (.invalidArgument ("string contains a NUL byte: " ++ Text.quoted s))
  else .ok s

end EmbeddedPython
