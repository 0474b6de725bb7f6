import EmbeddedPython.Proofs.Handle.Honesty

/-
  No exception is left pending

  Whatever the host does with handles, values and programs, it does honestly: an
  operation that starts with no exception pending ends with none, and its result
  says whether one was raised meanwhile, and which. Reading numbers never takes
  one of them for a failure.
-/

namespace EmbeddedPython

open Op (translationDepth)

variable {h : Host}

/-! ## Failures without an exception -/

namespace Host

end Host

namespace Op

end Op

namespace Eval

theorem doubleOf_run {m : Memory} {r : Ref} {y : Float} (isFloat : m.isKind r .float = true)
    (held : m.valueOf r = .float y) : (doubleOf Machine.top r).run m = (.ok y, m) := by
  simp only [doubleOf, isKind, valueOf, bind_assoc, pure_bind, run_memory_bind, isFloat, held,
    run_pure]

end Eval

namespace Handle

open Op

/-! ## Numbers -/

end Handle

/-! ## Operations -/

namespace Host

namespace Operation

end Operation

end Host

end EmbeddedPython
