import EmbeddedPython.Handle.Access
import EmbeddedPython.Interpreter.Application

/-
  Calling objects through handles

  No argument and one argument are handed over as they are, anything else in a
  tuple, and keywords in a dictionary. The tuple and the dictionary are owned
  while the call lasts.
-/

namespace EmbeddedPython.Handle

open Op (request askDone)

/-- Puts the objects of handles into a tuple that is being made, one after the other. The tuple
takes over a new reference to each. -/
def fill (tuple : Handle) : List Handle → Op Unit
  | [] => pure ()
  | x :: rest => do
    let r ← x.live
    Op.passing [r]
    Op.hold r
    askDone [tuple.ref, r] (Eval.addItem tuple.ref r rest.isEmpty)
    Op.letGo r
    fill tuple rest

/-- A tuple of the objects of handles. -/
def tupleOf (items : List Handle) : Op Handle := do
  if items.isEmpty then request [] (Eval.newTuple [])
  else
    let tuple ← request [] (Eval.make .tuple (.list []))
    Op.onFailure (fill tuple items) tuple.drop
    pure tuple

/-- Has an object applied to positional arguments. -/
def callThrough (apply : Application) (f : Handle) (arguments : List Handle) : Op Handle := do
  let callee ← f.live
  Op.guarded do
    match arguments with
    | [] => request [callee] (apply callee [] [])
    | [x] => do
      let r ← x.live
      request [callee, r] (apply callee [r] [])
    | _ =>
      spend (← tupleOf arguments) fun tuple => do
        request [callee] (do apply callee (← Eval.itemsOf tuple.ref) [])

/-- Calls an object with positional arguments. -/
def call (f : Handle) (arguments : List Handle) : Op Handle :=
  callThrough Machine.top.call f arguments

/-- Puts named values into a dictionary, one after the other. -/
def nameValues (dict : Handle) : List (String × Handle) → Op Unit
  | [] => pure ()
  | (name, x) :: rest => do
    let r ← x.live
    spend (← request [] (Eval.newString name)) fun key =>
      askDone [dict.ref, key.ref, r] (Eval.setKey Machine.top dict.ref key.ref r)
    nameValues dict rest

/-- Has an object applied to positional arguments, the entries of a mapping, and named values. Names
and values are paired by their places; a named value takes the place of an entry of that name. -/
def callWithKeywordsThrough (apply : Application) (f : Handle) (arguments : List Handle)
    (names : List String) (values : List Handle) (extra : Option Handle) : Op Handle := do
  if names.length ≠ values.length then
    Op.fail (.invalidArgument (toString names.length ++ " keyword names but "
      ++ toString values.length ++ " keyword values"))
  else if names.isEmpty && extra.isNone then callThrough apply f arguments
  else
    let callee ← f.live
    Op.guarded do
      spend (← tupleOf arguments) fun tuple => do
        spend (← request [] (Eval.make .dict (.dict []))) fun dict => do
          match extra with
          | some x => do
            let r ← x.live
            askDone [dict.ref, r] (Eval.mergeMapping Machine.top dict.ref r)
          | Option.none => pure ()
          nameValues dict (names.zip values)
          request [callee, tuple.ref, dict.ref]
            (Eval.applyAll apply callee tuple.ref dict.ref)

/-- Calls an object with positional arguments, the entries of a mapping, and named values. -/
def callWithKeywords (f : Handle) (arguments : List Handle) (names : List String)
    (values : List Handle) (extra : Option Handle) : Op Handle :=
  callWithKeywordsThrough Machine.top.call f arguments names values extra

/-- Calls a method of an object. -/
def callMethod (x : Handle) (name : String) (arguments : List Handle) : Op Handle := do
  spend (← x.getAttr name) fun f => f.call arguments

end EmbeddedPython.Handle
