import EmbeddedPython.Handle.Conversion

/-
  Importing modules and evaluating programs
-/

namespace EmbeddedPython.Host

open Op (request askDone)

/-- Imports a module. -/
def importModule (name : String) : Op Handle := do
  let name ← Op.ofExcept (terminated name)
  Op.guarded (request [] (Eval.importModule name))

/-- Fresh names for a program, with the built-in ones. -/
def newGlobals : Op Handle := Op.guarded do
  let globals ← request [] (Eval.newDict Machine.top [])
  let fill : Op Unit := do
    Handle.spend (← importModule "builtins") fun builtins => do
      Handle.spend (← (HostValue.text "__builtins__").toHandle) fun key =>
        askDone [globals.ref, key.ref, builtins.ref]
          (Eval.setKey Machine.top globals.ref key.ref builtins.ref)
  Op.onFailure fill globals.drop
  pure globals

/-- Evaluates an expression with the names of `globals`. -/
def evaluate (expression : String) (globals : Handle) : Op Handle := do
  let source ← Op.ofExcept (terminated expression)
  let names ← globals.live
  Op.guarded (request [names] (Eval.evaluateSource Machine.top names source))

/-- Executes statements with the names of `globals`. -/
def execute (code : String) (globals : Handle) : Op Unit := do
  let source ← Op.ofExcept (terminated code)
  let names ← globals.live
  let result ← Op.guarded do
    request [names] do
      Eval.executeSource Machine.top names source
      pure Ref.none
  result.drop

/-- Evaluates an expression with fresh names. -/
def evaluateAlone (expression : String) : Op Handle := do
  Handle.spend (← newGlobals) fun globals => evaluate expression globals

end EmbeddedPython.Host
