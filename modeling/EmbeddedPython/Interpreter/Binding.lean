import EmbeddedPython.Interpreter.Subscript

/-
  Binding arguments to parameters

  Positional arguments fill the parameters in order; keywords fill those of
  their names; defaults fill what is left. What does not fit is an error, and
  the keywords are looked at before the number of positional arguments.
-/

namespace EmbeddedPython

open EmbeddedPython.Language (Signature)

namespace Eval

/-- The bindings of a call in the making. -/
structure Filling where
  bound : List (String × Ref)
  extra : List (Text × Ref)

/-- A list of names in words: `'a', 'b', and 'c'`. -/
def namesInWords (names : List String) : String :=
  match names.map fun n => "'" ++ n ++ "'" with
  | [] => ""
  | [a] => a
  | [a, b] => a ++ " and " ++ b
  | items => ", ".intercalate items.dropLast ++ ", and " ++ items.getLastD ""

def plural (n : Nat) : String := if n = 1 then "" else "s"

/-- Raises the error of parameters without an argument. -/
def missingArguments {α : Type} (f : Function) (kind : String) (names : List String) : Eval α :=
  typeError (f.name ++ "() missing " ++ toString names.length ++ " required " ++ kind ++ " argument"
    ++ plural names.length ++ ": " ++ namesInWords names)

/-- Raises the error of too many positional arguments. -/
def tooManyArguments {α : Type} (f : Function) (given keywordOnlyGiven : Nat) : Eval α :=
  let wanted := f.signature.ordered.length
  let (takes, many) :=
    if f.defaults.isEmpty then (toString wanted, wanted != 1)
    else ("from " ++ toString (wanted - f.defaults.length) ++ " to " ++ toString wanted, true)
  let also := if keywordOnlyGiven = 0 then ""
    else " positional argument" ++ plural given ++ " (and " ++ toString keywordOnlyGiven
      ++ " keyword-only argument" ++ plural keywordOnlyGiven ++ ")"
  typeError (f.name ++ "() takes " ++ takes ++ " positional argument" ++ (if many then "s" else "")
    ++ " but " ++ toString given ++ also ++ " "
    ++ (if given = 1 && keywordOnlyGiven = 0 then "was" else "were") ++ " given")

/-- Binds one keyword. -/
def bindKeyword (f : Function) (all : List (Text × Ref)) (filling : Filling) (k : Text × Ref) :
    Eval Filling := do
  let s := f.signature
  let name := k.1.toStringLossy
  if k.1 == Text.ofString name && (s.positional ++ s.keywordOnly).contains name then
    if (filling.bound.lookup name).isSome then
      typeError (f.name ++ "() got multiple values for argument '" ++ name ++ "'")
    else pure { filling with bound := filling.bound ++ [(name, k.2)] }
  else if s.keywords.isSome then pure { filling with extra := filling.extra ++ [k] }
  else
    let positionalOnly := s.positionalOnly.filter fun n => all.any fun k => k.1 == Text.ofString n
    if positionalOnly.isEmpty then
      raise .typeError (Text.ofString (f.name ++ "() got an unexpected keyword argument '") ++ k.1
        ++ "'")
    else
      typeError (f.name ++ "() got some positional-only arguments passed as keyword arguments: '"
        ++ ", ".intercalate positionalOnly ++ "'")

/-- Binds the arguments of a call to the parameters of a function. -/
def bindArguments (m : Machine) (f : Function) (arguments : List Ref)
    (keywords : List (Text × Ref)) : Eval (List (String × Ref)) := do
  let s := f.signature
  let filled : Filling := ⟨s.ordered.zip arguments, []⟩
  let filled ← keywords.foldlM (bindKeyword f keywords) filled
  if s.ordered.length < arguments.length && s.variadic.isNone then
    tooManyArguments f arguments.length
      (s.keywordOnly.filter fun n => (filled.bound.lookup n).isSome).length
  else
    let withDefault := s.ordered.drop (s.ordered.length - f.defaults.length)
    let defaults := withDefault.zip f.defaults
    let missing := s.ordered.filter fun n =>
      (filled.bound.lookup n).isNone && (defaults.lookup n).isNone
    if !missing.isEmpty then missingArguments f "positional" missing
    else
      let missing := s.keywordOnly.filter fun n =>
        (filled.bound.lookup n).isNone && (f.keywordDefaults.lookup n).isNone
      if !missing.isEmpty then missingArguments f "keyword-only" missing
      else
        let given := (s.ordered ++ s.keywordOnly).filterMap fun n =>
          match filled.bound.lookup n with
          | some r => some (n, r)
          | none => ((defaults ++ f.keywordDefaults).lookup n).map fun r => (n, r)
        let rest ← match s.variadic with
          | some n => do pure [(n, ← newTuple (arguments.drop s.ordered.length))]
          | none => pure []
        let extra ← match s.keywords with
          | some n => do
            let pairs ← filled.extra.mapM fun (k : Text × Ref) => do pure (← newText k.1, k.2)
            pure [(n, ← newDict m pairs)]
          | none => pure []
        pure (given ++ rest ++ extra)

end Eval

end EmbeddedPython
