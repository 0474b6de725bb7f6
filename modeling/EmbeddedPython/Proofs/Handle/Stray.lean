import EmbeddedPython.Environment.Basic
import EmbeddedPython.Proofs.Host.Owning

/-
  Handles that outlive their interpreter

  A handle asks only whether some interpreter is alive. While that is the one
  that made its object, or while there is none, its pointer goes nowhere else.
  Once another interpreter has been initialized, the pointer is passed to that.
-/

namespace EmbeddedPython

namespace Handle

/-- Without an interpreter a handle is released, and nothing is given back. -/
theorem dispose_of_not_alive (x : Handle) (t : ThreadId) {h : Host} (gone : h.lock.alive = false) :
    x.dispose.perform t h = (.ok { x with disposed := true }, h) := by
  obtain ⟨ref, _ | _⟩ := x
  · cases hi : ref.isImmortal with
    | true =>
      simp only [dispose, isImmortal, hi]
      rfl
    | false =>
      have hd : dispose ⟨ref, false⟩ = Op.host >>= fun k => if k.lock.alive then do
          Op.guarded do
            Op.passing [ref]
            Op.letGo ref
          pure ⟨ref, true⟩ else pure ⟨ref, true⟩ := by
        simp only [dispose, isImmortal, hi]
        rfl
      rw [hd, Op.perform_bind]
      show (if h.lock.alive then _ else _ : Op Handle).perform t h = _
      rw [if_neg (by rw [gone]; exact Bool.false_ne_true)]
      rfl
  · rfl

end Handle

end EmbeddedPython
