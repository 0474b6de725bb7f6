import EmbeddedPython.Host.Translation

/-
  Calls that answer by a number

  A status says no more than what it stands for: to read it is to ask the call
  itself. A number that may be an answer as well is told from a failure by the
  exception that is pending.
-/

namespace EmbeddedPython.Op

variable {α β : Type}

/-- To compute something of what a call returns is to call for that. -/
theorem enter_map (refs : List Ref) (body : Eval α) (f : α → β) :
    enter refs (do pure (f (← body))) = (do pure ((← enter refs body).map f)) := by
  apply ext
  intro t h
  simp only [enter, bind_assoc, perform_bind, passing, update, run, Eval.run_bind]
  rcases body.run h.memory with ⟨_ | a, m⟩ <;> rfl

/-- A status that stands for an answer is read as this answer. -/
theorem askStatus_map (refs : List Ref) (body : Eval α) {f : α → Int} (valid : ∀ a, f a ≠ -1) :
    askStatus refs (do pure (f (← body))) = (do pure (f (← ask refs body))) := by
  apply ext
  intro t h
  simp only [askStatus, enterOr, ask, answered, enter_map, bind_assoc, pure_bind, perform_bind]
  generalize (enter refs body).perform t h = b
  obtain ⟨_ | _ | a, k⟩ := b
  · rfl
  · simp only [Option.map_none, Option.getD_none, checkStatus, if_true, Handle.answeredBy,
      perform_bind]
    rcases translate.perform t k with ⟨_ | _, _⟩ <;> rfl
  · simp only [Option.map_some, Option.getD_some, checkStatus, valid, if_false, Handle.answeredBy]
    rfl

theorem askDone_eq (refs : List Ref) (body : Eval Unit) : askDone refs body = ask refs body := by
  have status := askStatus_map (f := fun _ => 0) refs body fun _ => by decide
  rw [askDone, status, bind_assoc]
  simp only [pure_bind]
  exact bind_pure _

theorem askTruth_eq (refs : List Ref) (body : Eval Bool) : askTruth refs body = ask refs body := by
  have status := askStatus_map (f := fun b : Bool => if b then 1 else 0) refs body fun b => by
    cases b <;> decide
  have same (b : Bool) : ((if b then (1 : Int) else 0) == 1) = b := by cases b <;> rfl
  rw [askTruth, status, bind_assoc]
  simp only [pure_bind, same]
  exact bind_pure _

end EmbeddedPython.Op
