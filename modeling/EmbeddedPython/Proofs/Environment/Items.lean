import EmbeddedPython.Proofs.Environment.Errands

/-
  The items of a generator

  An iteration over a generator returns what the body yields, in the order in
  which it is yielded, and then the end, or what the body raises. The outcomes
  of the steps are those of the task that has run the body, so that nothing is
  left out and nothing is returned twice, however often the body waits.
-/

namespace EmbeddedPython

open Activity Bridge

/-! ## Asking for an item -/

namespace Bridge

namespace AsyncIterator

variable {x : AsyncIterator}

end AsyncIterator

end Bridge

/-! ## What calls return -/

namespace Bridge.AsyncIterator

variable (x : AsyncIterator)

end Bridge.AsyncIterator

namespace System

open AsyncIterator

/-- Whether objects are seen to be left alone in the course of actions. -/
def unchanged (refs : List Ref) : System → List Action → Bool
  | _, [] => true
  | s, a :: more => refs.all (fun r => ((s.step a).memory.object r).seen (s.memory.object r)) &&
      unchanged refs (s.step a) more

/-- A program makes a generator that yields one item. -/
def makeGenerator : Op Unit := do
  let _ ← Op.request []
    (Eval.make .asyncGenerator (.asyncGenerator ⟨.created, [.generating [.emit .none]]⟩))

/-- It asks the generator for a step. -/
def makeStep : Op Unit := do
  let _ ← (Handle.adopt (.cell 11)).callMethod "__anext__" []

namespace Delivery

/-- An environment is started and opens a loop, and the generator and its step are made. -/
def made : List Action :=
  [.start 0 Options.default, .proceed 0] ++
    [.openLoop 0 0, .operate 0 makeGenerator, .operate 0 makeStep]

/-- The step is submitted. -/
def asked : List Action := made ++ [.submit 0 0 (Handle.adopt (.cell 13)) ⟨none⟩]

/-- The driver has taken the request out of its queue. -/
def taken : List Action := asked ++ ([.proceed 0, .proceed 0] ++ List.replicate 5 (.drive 0))

/-- It has started a task for the step and calls its loop, which is to run the task. -/
def entered : List Action := taken ++ [.drive 0] ++ List.replicate 7 (.drive 0)

/-- The loop has run it and has returned, and the driver is to look at the task. -/
def returned : List Action := entered ++ [.drive 0] ++ List.replicate 5 (.drive 0)

/-- What takes part. -/
def errand : Errand := ⟨.cell 11, .cell 13, .cell 18, .cell 19, .cell 7⟩

def tracked : Tracked := ⟨1, Handle.adopt (.cell 19), Handle.adopt (.cell 21), 0, .nothing⟩

/-- The task, which has come to something or not. -/
def task (outcome : FutureOutcome) (callbacks : List Callback) : Future :=
  ⟨.cell 7, outcome, callbacks, [], some ⟨.cell 18, false, none⟩⟩

end Delivery

open Delivery

end System

end EmbeddedPython
