import EmbeddedPython.Interpreter.Call

/-
  Application

  A callable is applied to a tuple of arguments and a dictionary of keywords.
  The dictionary may have been filled from any mapping.
-/

namespace EmbeddedPython

/-- How a callable is applied to positional arguments and keywords. -/
abbrev Application := Ref → List Ref → List (Text × Ref) → Eval Ref

/-- The entries of a dictionary that is iterated as dictionaries are. -/
def Memory.ownEntries? (m : Memory) (r : Ref) : Option (List Entry) :=
  match m.special r "__iter__", m.valueOf r with
  | some (.native _), .dict entries => some entries
  | _, _ => none

namespace Eval

/-- The keys that a mapping names, in order. -/
def keysOf (m : Machine) (r : Ref) : Eval (List Ref) := do
  let keys ← m.call (← getAttr m r "keys") [] []
  let it ← rescue .typeError (iterator m keys) fun _ => do
    typeError ((← typeName r) ++ ".keys() returned a non-iterable (type " ++ (← typeName keys)
      ++ ")")
  iterate m it

/-- Puts what a mapping has under keys into a dictionary. -/
def mergeKeys (m : Machine) (dict source : Ref) (keys : List Ref) : Eval Unit :=
  keys.forM fun key => do setKey m dict key (← getItem m source key)

/-- Puts the entries of a mapping into a dictionary. A dictionary is read directly, any other
mapping by its keys. -/
def mergeMapping (m : Machine) (dict source : Ref) : Eval Unit := do
  match (← memory).ownEntries? source with
  | some entries => entries.forM fun e => setKey m dict e.key e.value
  | none => mergeKeys m dict source (← keysOf m source)

/-- Whether an object can be called at all. -/
def isCallable (r : Ref) : Eval Bool := do
  pure (((← memory).class? r).isSome || (← special r "__call__").isSome)

/-- An entry of a dictionary as a keyword, which must be a text. -/
def keywordOf (e : Entry) : Eval (Text × Ref) := do
  match (← valueOf e.key) with
  | .text t => pure (t, e.value)
  | _ => typeError "keywords must be strings"

def keywordsOf (entries : List Entry) : Eval (List (Text × Ref)) := entries.mapM keywordOf

/-- The items of a tuple. -/
def itemsOf (r : Ref) : Eval (List Ref) := do
  match (← valueOf r) with
  | .tuple items => pure items
  | _ => pure []

/-- Puts an item into a tuple that is being made. The tuple holds its items as a list does until the
last one is there. -/
def addItem (tuple item : Ref) (last : Bool) : Eval Unit := do
  match (← valueOf tuple) with
  | .list items =>
    setValue tuple (if last then .tuple (items ++ [item]) else .list (items ++ [item]))
  | _ => pure ()

/-- Applies a callable to a tuple and a dictionary. -/
def applyAll (apply : Application) (f arguments keywords : Ref) : Eval Ref := do
  let items ← itemsOf arguments
  if ← isCallable f then apply f items (← keywordsOf (← entriesOf keywords))
  else apply f items []

end Eval

end EmbeddedPython
