import EmbeddedPython.Environment.System
import EmbeddedPython.Proofs.Bridge.Move

/-
  Routine work

  Most of what threads and drivers do only changes the bridge and leaves errands
  behind, which do so in turn. What is no routine is a request that somebody
  waits for, and the start and the end of an environment.
-/

namespace EmbeddedPython

open Activity Bridge

/-- Whether a chore is about no request that anybody waits for and about no environment as a
whole. -/
def Chore.Errand : Chore → Prop
  | enqueue _ r => r.promise? = none
  | wake _ | endDispose _ _ => True
  | resolve _ | settleClose _ _ _ | finishClose _ => False

/-- Whether an action begins something that is about no request and about no environment as a
whole. -/
def Action.IsRoutine : Action → Prop
  | submit _ _ _ _ | start _ _ | close _ _ | proceed _ => False
  | _ => True

namespace Activity

variable {α : Type}

/-- Whether an activity only changes the bridge and leaves only errands behind. -/
def Routine (x : Activity Chores) : Prop := Turning x ∧ ∀ p, ∀ c ∈ (x p).1, c.2.Errand

namespace Routine

theorem pure {chores : Chores} (h : ∀ c ∈ chores, c.2.Errand) : Routine (Pure.pure chores) :=
  ⟨.pure chores, fun _ => h⟩

theorem nil : Routine (Pure.pure []) :=
  ⟨.pure [], fun _ _ h => absurd h List.not_mem_nil⟩

theorem bind {x : Activity α} {f : α → Activity Chores} (hx : Turning x)
    (hf : ∀ a, Routine (f a)) : Routine (x >>= f) :=
  ⟨.bind hx fun a => (hf a).1, fun _ => (hf _).2 _⟩

theorem get_bind {f : Process → Activity Chores} (hf : ∀ p, Routine (f p)) :
    Routine (get >>= f) :=
  ⟨.get_bind fun p => (hf p).1, fun p => (hf p).2 p⟩

end Routine

theorem disposal_routine (t : ThreadId) (l : LoopId) (dropped : Bool) :
    Routine (disposal t l dropped) := by
  refine .bind (markDisposed_turning l) fun marked => ?_
  cases marked with
  | true =>
    refine .pure fun c hc => ?_
    simp only [List.mem_cons, List.not_mem_nil, or_false] at hc
    rcases hc with rfl | rfl
    · rfl
    · trivial
  | false =>
    cases dropped with
    | true => exact .bind (releaseLoop_idle t l).turning fun _ => .nil
    | false => exact .nil

end Activity

namespace Bridge

/-- A push that nobody waits for is routine, whether it is refused or not. -/
theorem enqueueChore_routine (t : ThreadId) (l : LoopId) {r : Request} (h : r.promise? = none) :
    Routine (Chore.run t (.enqueue l r)) := by
  refine .bind (push_turning t l h) fun pushed => ?_
  rcases pushed with _ | _ | n
  · refine .bind (fun p => ?_) fun _ => .nil
    have hp : p.answer r .eventLoopClosed = p := by simp only [Process.answer, h]
    show p.Turns (tell t r.drop (p.answer r .eventLoopClosed)).2
    rw [hp]
    exact (tell_idle t r.drop p).turns
  · exact .nil
  · exact .pure fun c hc => by rw [List.mem_singleton.mp hc]; trivial

end Bridge

theorem Action.routine {a : Action} (h : a.IsRoutine) : Routine a.run := by
  cases a with
  | operate t op => exact .bind (tell_idle t op).turning fun _ => .nil
  | newSource => exact .bind newSource_idle.turning fun _ => .nil
  | cancel t source =>
    refine .bind (raiseSignal_idle source).turning fun calls => .pure fun c hc => ?_
    obtain ⟨call, -, rfl⟩ := List.mem_map.mp hc
    rfl
  | submit t l awaitable token => exact h.elim
  | abandon t i => exact .bind (abandon_turning t i) fun _ => .nil
  | openLoop t e => exact .bind (openLoop_turning t e) fun _ => .nil
  | openDefault t e => exact .bind (defaultLoop_turning t e) fun _ => .nil
  | share l => exact .bind (share_turning l) fun _ => .nil
  | limit l duration => exact .bind (setLimit_turning l duration) fun _ => .nil
  | dispose t l => exact disposal_routine t l false
  | dropLoop t l =>
    refine .bind (disown_turning l) fun last => ?_
    cases last with
    | true => exact disposal_routine t l true
    | false => exact .nil
  | start t o => exact h.elim
  | close t e => exact h.elim
  | drive l => exact .bind (step_turning l) fun _ => .nil
  | proceed n => exact h.elim

theorem System.step_of_routine (s : System) {a : Action} (h : a.IsRoutine) :
    s.step a = after s.chores a.run s.process := by
  cases a with
  | proceed n => exact h.elim
  | _ => rfl

theorem Chore.routine (t : ThreadId) {c : Chore} (h : c.Errand) : Routine (c.run t) := by
  cases c with
  | enqueue l r => exact enqueueChore_routine t l h
  | wake n => exact .bind (wake_idle t n).turning fun _ => .nil
  | endDispose l dropped =>
    refine .bind (endDispose_turning t l) fun result => ?_
    cases dropped with
    | true =>
      exact .bind (noteDisposal_idle result).turning fun _ =>
        .bind (releaseLoop_idle t l).turning fun _ => .nil
    | false => exact .nil
  | resolve e => exact h.elim
  | settleClose e loop waited => exact h.elim
  | finishClose finalizes => exact h.elim

end EmbeddedPython
