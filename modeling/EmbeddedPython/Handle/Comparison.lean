import EmbeddedPython.Host.Translation

/-
  Comparing objects through handles
-/

namespace EmbeddedPython.Handle

open Op (askTruth)

/-- The answer to a comparison of two objects. An object equals itself without being asked. -/
def richCompare (x y : Handle) (c : Comparison) : Op Bool := do
  let a ← x.live
  let b ← y.live
  Op.guarded (askTruth [a, b] (Eval.compareBool Machine.top c a b))

/-- Equality. Handles to one object are equal without a call. -/
def equals (x y : Handle) : Op Bool :=
  if x.isSame y && !x.disposed then pure true else x.richCompare y .eq

/-- The order of two objects, as far as they have one. Equality is asked first, then `<`, then
`>`. -/
def partialCompare (x y : Handle) : Op (Option Ordering) := do
  if ← x.equals y then pure (some .eq)
  else if ← x.richCompare y .lt then pure (some .lt)
  else if ← x.richCompare y .gt then pure (some .gt)
  else pure Option.none

end EmbeddedPython.Handle
