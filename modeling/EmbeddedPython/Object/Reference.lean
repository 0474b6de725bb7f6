import EmbeddedPython.Object.Builtin
import EmbeddedPython.Text.Basic

/-
  References to objects

  Some objects exist once and for all: the singletons, small integers, texts
  of at most one character, the built-in classes and their native functions.
  They are named by what they are. All other objects live in numbered cells,
  and no number is ever used twice.
-/

namespace EmbeddedPython

/-- An object that exists once and for all. -/
inductive Static where
  | none
  | truth (b : Bool)
  | notImplemented
  | ellipsis
  /-- an integer between -5 and 256 -/
  | smallInt (n : Int)
  /-- the empty text, or a text of one of the first 256 characters -/
  | shortText (t : Text)
  | emptyTuple
  /-- the empty byte string, or a byte string of one byte -/
  | shortBytes (b : List UInt8)
  | builtin (c : Builtin)
  /-- a native function of a module -/
  | function (module name : String)
  /-- a native method, not bound to an object -/
  | method (owner : Builtin) (name : String)
  deriving DecidableEq, Repr, Inhabited

/-- A reference to an object. -/
inductive Ref where
  | static (s : Static)
  | cell (id : Nat)
  deriving DecidableEq, Repr, Inhabited

namespace Ref

def none : Ref := static .none

def ofBool (b : Bool) : Ref := static (.truth b)

def notImplemented : Ref := static .notImplemented

def ofBuiltin (c : Builtin) : Ref := static (.builtin c)

def ofExceptionClass (c : ExceptionClass) : Ref := static (.builtin (.exception c))

/-- Whether the reference is to one of the objects that the host never counts. -/
def isImmortal : Ref → Bool
  | static .none | static (.truth _) => true
  | _ => false

/-- The number of the cell, if the object lives in one. -/
def id? : Ref → Option Nat
  | cell id => some id
  | static _ => Option.none

end Ref

end EmbeddedPython
