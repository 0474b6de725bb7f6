import EmbeddedPython.Bridge.Queue
import EmbeddedPython.Proofs.Handle.Applying
import EmbeddedPython.Proofs.Handle.Operation
import EmbeddedPython.Proofs.Host.Failing
import EmbeddedPython.Proofs.Host.Quiet
import EmbeddedPython.Proofs.Host.Succeeding

/-
  What a request borrows

  A caller keeps the handle that it submits. The request gets a handle of its
  own to the object, and with it one reference more, which dropping the handle
  gives back. What is taken to wake the driver is given back by the wake-up.
  Beyond that a submission only asks whether the object has a certain attribute.
-/

namespace EmbeddedPython

variable {α β : Type}

namespace Op

/-! ## Operations that leave the references alone -/

/-- Whether an operation leaves the host with the references that it had. -/
def Balanced (op : Op α) : Prop := ∀ (t : ThreadId) (h : Host), (op.perform t h).2.held = h.held

namespace Balanced

theorem pure (a : α) : Balanced (Pure.pure a : Op α) := fun _ _ => rfl

theorem failure (f : Failure) : Balanced (Op.failure f : Op α) := fun _ _ => rfl

theorem host : Balanced Op.host := fun _ _ => rfl

theorem update {f : Host → Host} {keeps : ∀ h : Host, h.Becomes (f h)} (held : ∀ h, (f h).held = h.held) :
    Balanced (Op.update f keeps) := fun _ => held

theorem andThen {body : Op α} {next : Except Failure α → Op β} (hb : Balanced body)
    (hn : ∀ r, Balanced (next r)) : Balanced (body.andThen next) :=
  fun t h => (hn _ t _).trans (hb t h)

theorem bind {body : Op α} {next : α → Op β} (hb : Balanced body) (hn : ∀ a, Balanced (next a)) :
    Balanced (body >>= next) := by
  refine hb.andThen fun r => ?_
  cases r with
  | ok a => exact hn a
  | error f => exact failure f

theorem ofExcept (r : Except Error α) : Balanced (Op.ofExcept r) := by
  cases r with
  | ok a => exact pure a
  | error e => exact failure _

theorem acquire : Balanced acquire := by
  intro t h
  simp only [Op.acquire]
  split <;> rfl

theorem release : Balanced release := fun t h => by rw [release_eq]

theorem guarded {body : Op α} (hb : Balanced body) : Balanced (Op.guarded body) := by
  refine acquire.bind fun _ => hb.andThen fun r => release.andThen fun last => ?_
  cases last with
  | ok _ => exact fun _ _ => rfl
  | error f => exact failure f

theorem run (body : Eval α) : Balanced (Op.run body) := by
  intro t h
  simp only [Op.run]
  split <;> rfl

theorem enter (refs : List Ref) (body : Eval α) : Balanced (Op.enter refs body) :=
  .bind (.update fun _ => rfl) fun _ => run body

theorem takePending : Balanced takePending :=
  .bind host fun _ => .bind (.update fun _ => rfl) fun _ => .pure _

end Balanced

end Op

namespace Handle

open Op

theorem live_balanced (x : Handle) : Balanced x.live := by
  simp only [live]
  split
  · exact .failure _
  · exact .pure _

/-- Asking for an attribute takes no reference. -/
theorem hasAttr_balanced (x : Handle) (name : String) : Balanced (x.hasAttr name) := by
  refine .bind x.live_balanced fun r => .bind (.ofExcept _) fun name => .guarded ?_
  refine .bind (.enter _ _) fun found => ?_
  cases found with
  | some _ => exact .pure _
  | none => exact .bind .takePending fun _ => .pure _

/-- Another handle to an object takes one reference, and nothing is asked of the object. -/
theorem clone_lends {x y : Handle} {t : ThreadId} {h k : Host}
    (cloned : x.clone.perform t h = (.ok y, k)) : y = adopt x.ref ∧ h.Resembles k ∧
      k.held = if y.isImmortal then h.held else y.ref :: h.held := by
  obtain ⟨rfl, live⟩ := clone_ok cloned
  refine ⟨rfl, ?_⟩
  rw [clone, live_run live, pure_bind] at cloned
  cases hi : x.isImmortal with
  | true =>
    simp only [hi] at cloned
    cases cloned
    exact ⟨.refl h, by rw [if_pos (show (adopt x.ref).isImmortal = true from hi)]⟩
  | false =>
    simp only [hi, Bool.not_false, if_true] at cloned
    obtain ⟨_, j, held, rest⟩ := bind_ok cloned
    cases rest
    cases took : h.lock.tryAcquire t with
    | error e => simp [Op.guarded, perform_bind, Op.acquire, took] at held
    | ok taken =>
      have mortal : x.ref.isImmortal = false := hi
      rw [guarded_eq took, release_eq] at held
      obtain rfl := (congrArg Prod.snd held).symm
      rw [if_neg (show ¬ (adopt x.ref).isImmortal = true by simp [adopt, isImmortal, mortal])]
      simp only [perform_bind, Op.passing, Op.hold, Op.update, mortal, Bool.false_eq_true, if_false]
      exact ⟨⟨rfl, rfl, rfl⟩, rfl⟩

end Handle

/-! ## Wake-ups -/

/-- Whether an object is a coroutine as it has been made. -/
structure Memory.IsCoroutine (m : Memory) (r : Ref) : Prop where
  cls : m.classOf r = Ref.ofBuiltin .coroutine
  value : ∃ c, m.valueOf r = .coroutine c
  attributes : (m.object r).attributes = none

theorem Memory.class?_of_coroutine {m : Memory} {r : Ref} {c : Coroutine}
    (h : m.valueOf r = .coroutine c) : m.class? r = none := by
  cases r with
  | static s => cases s <;> cases h
  | cell id => exact class?_of_value fun info other => by cases h.symm.trans other

/-- Asking a coroutine whether it can be awaited does nothing to it, or to any other object. -/
theorem Memory.IsCoroutine.awaited {m : Memory} {x : Handle} (h : m.IsCoroutine x.ref)
    (live : x.disposed = false) : ∃ n, Op.Returns (x.hasAttr "__await__") m true n ∧ m.Adds n := by
  obtain ⟨c, value⟩ := h.value
  exact Handle.hasAttr_native live rfl h.cls (class?_of_coroutine value) h.attributes
    (show Builtin.definer? .coroutine "__await__" = some .coroutine by decide) (by decide) rfl rfl

end EmbeddedPython
