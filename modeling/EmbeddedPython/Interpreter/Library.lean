import EmbeddedPython.Interpreter.Functions
import EmbeddedPython.Text.Path

/-
  Functions of the library

  The functions of the module of paths, which programs of the library define,
  and the native ones of the module of operators.
-/

namespace EmbeddedPython

open EmbeddedPython.Language (Signature)

/-- The functions of the module of paths with their parameters. -/
def pathFunctions : List (String × Signature) := [
  ("join", ⟨[], ["a"], some "p", [], none⟩), ("basename", Signature.plain ["p"]),
  ("dirname", Signature.plain ["p"]), ("split", Signature.plain ["p"]),
  ("splitext", Signature.plain ["p"]), ("isabs", Signature.plain ["s"]),
  ("normpath", Signature.plain ["path"]), ("normcase", Signature.plain ["s"]),
  ("splitdrive", Signature.plain ["p"])]

/-- The module of paths. -/
def pathModule : String := "os.path"

/-- The functions of the module of operators that are operators of two objects. -/
def operatorFunctions : List (String × Language.BinaryOperator) := [
  ("add", .add), ("sub", .sub), ("mul", .mul), ("truediv", .div), ("floordiv", .floorDiv),
  ("mod", .mod), ("pow", .pow), ("concat", .add)]

/-- The functions of the module of operators that compare two objects. -/
def comparisonFunctions : List (String × Comparison) := [
  ("lt", .lt), ("le", .le), ("eq", .eq), ("ne", .ne), ("gt", .gt), ("ge", .ge)]

namespace Eval

/-- The text of a path. -/
def pathText (r : Ref) : Eval Text := do
  match (← valueOf r) with
  | .text t => pure t
  | _ => typeError ("expected str, bytes or os.PathLike object, not " ++ (← typeName r))

/-- Runs a function of the module of paths with its bound arguments. -/
def runPathFunction (name : String) (bound : List (String × Ref)) : Eval Ref := do
  let get := fun (n : String) => (bound.lookup n).getD Ref.none
  let path := do pathText (((bound.head?).map (·.2)).getD Ref.none)
  match name with
  | "join" => do
    let first ← pathText (get "a")
    let others ← match (← valueOf (get "p")) with
      | .tuple items => pure items
      | _ => pure []
    let texts ← others.mapM fun r => do
      match (← valueOf r) with
      | .text t => pure t
      | _ =>
        typeError ("join() argument must be str, bytes, or os.PathLike object, not '"
          ++ (← typeName r) ++ "'")
    newText (texts.foldl Text.joinPath first)
  | "basename" => do newText (← path).baseName
  | "dirname" => do newText (← path).directoryName
  | "split" => do
    let path ← path
    newTuple [← newText path.directoryName, ← newText path.baseName]
  | "splitext" => do
    let (stem, extension) := (← path).splitExtension
    newTuple [← newText stem, ← newText extension]
  | "isabs" => do newBool (← path).isAbsolutePath
  | "normpath" => do newText (← path).normalPath
  | "splitdrive" => do newTuple [← newString "", ← newText (← path)]
  | _ => do newText (← path)

/-- A function of the module of operators. -/
def operatorFunction (m : Machine) (name : String) (arguments : List Ref)
    (keywords : List (Text × Ref)) : Eval Ref := do
  noKeywords ("operator." ++ name) keywords
  checkCount name 2 2 arguments.length
  match arguments with
  | [a, b] =>
    match operatorFunctions.lookup name, comparisonFunctions.lookup name with
    | some op, _ => binary m (formatPercent m) op a b
    | none, some c => m.compare c a b
    | none, none => typeError (name ++ "() is not available")
  | _ => pure Ref.none

end Eval

end EmbeddedPython
