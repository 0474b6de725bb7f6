import EmbeddedPython.Proofs.Environment.Turn

/-
  What settles a promise

  A caller is told once what its request came to, and that stands: no act tells
  it again. `System.Resolves` lists everything that can tell it, with what is
  known then and with what the caller learns.
-/

namespace EmbeddedPython

open Activity Bridge

/-! ## The stages on a board -/

namespace Board

/-- Whether a caller still has to be told what its request came to. -/
def Unsettled (b : Board) (i : PromiseId) : Prop := ∀ o, b.stage i ≠ some (.settled o)

/-- Whether a caller has not been told anything. -/
def Untold (b : Board) (i : PromiseId) : Prop := ∀ stage, b.stage i = some stage → stage = .submitted

theorem Untold.unsettled {b : Board} {i : PromiseId} (h : b.Untold i) : b.Unsettled i :=
  fun _ ho => nomatch h _ ho

section

variable (b : Board) {i j : PromiseId} {o : Bridge.Outcome}

theorem tell_stage_of_ne (h : j ≠ i) (stage : Bridge.Stage) : (b.tell i stage).stage j = b.stage j :=
  Function.update_of_ne h ..

theorem tell_stage_self (stage : Bridge.Stage) :
    (b.tell i stage).stage i = (b.stage i).map fun _ => stage :=
  Function.update_self ..

/-- What a caller that has been told now was told now or before. -/
theorem tell_stage_settled {stage : Bridge.Stage}
    (h : (b.tell i stage).stage j = some (.settled o)) :
    b.stage j = some (.settled o) ∨ (stage = .settled o ∧ j = i) := by
  by_cases hj : j = i
  · subst hj
    rw [tell_stage_self] at h
    obtain ⟨_, -, rfl⟩ := Option.map_eq_some_iff.mp h
    exact .inr ⟨rfl, rfl⟩
  · rw [tell_stage_of_ne b hj] at h
    exact .inl h

@[simp] theorem giveUpAll_stage (xs : List Tracked) : (b.giveUpAll xs).stage = b.stage := by
  rw [giveUpAll_eq]

@[simp] theorem cancelOne_stage (l : LoopId) (id : TaskId) :
    (b.cancelOne l id).stage = b.stage := by
  simp only [cancelOne]
  split <;> rfl

@[simp] theorem stopAll_stage (l : LoopId) : (b.stopAll l).stage = b.stage := by
  simp only [stopAll]
  split
  · rfl
  · rw [change_stage, giveUpAll_stage]

theorem fail_stage_of_ne {xs : List Tracked} (h : ∀ x ∈ xs, x.promise ≠ i) (e : Error) :
    (b.fail xs e).stage i = b.stage i := by
  induction xs generalizing b with
  | nil => rfl
  | cons x xs ih =>
    refine (ih _ fun y hy => h y (List.mem_cons_of_mem x hy)).trans ?_
    exact tell_stage_of_ne _ (h x List.mem_cons_self).symm _

theorem fail_stage_settled {xs : List Tracked} {e : Error}
    (h : (b.fail xs e).stage i = some (.settled o)) :
    b.stage i = some (.settled o) ∨ (o = .error e ∧ ∃ x ∈ xs, x.promise = i) := by
  induction xs generalizing b with
  | nil => exact .inl h
  | cons x xs ih =>
    rcases ih _ h with h | ⟨ho, y, hy, hi⟩
    · rcases tell_stage_settled _ h with h | ⟨he, rfl⟩
      · exact .inl h
      · exact .inr ⟨(Stage.settled.inj he).symm, x, List.mem_cons_self, rfl⟩
    · exact .inr ⟨ho, y, List.mem_cons_of_mem x hy, hi⟩

theorem answer_stage_of_ne {r : Request} (h : r.promise? ≠ some i) (e : Error) :
    (b.answer r e).stage i = b.stage i := by
  cases r with
  | schedule c token j => exact tell_stage_of_ne b (fun hi => h (congrArg some hi.symm)) _
  | _ => rfl

theorem answer_stage_settled {r : Request} {e : Error}
    (h : (b.answer r e).stage i = some (.settled o)) :
    b.stage i = some (.settled o) ∨ (o = .error e ∧ r.promise? = some i) := by
  cases r with
  | schedule c token j =>
    rcases tell_stage_settled b h with h | ⟨he, rfl⟩
    · exact .inl h
    · exact .inr ⟨(Stage.settled.inj he).symm, rfl⟩
  | _ => exact .inl h

theorem hand_stage_of_ne {rs : List Request} (h : ∀ r ∈ rs, r.promise? ≠ some i) :
    (b.hand rs).stage i = b.stage i := by
  induction rs generalizing b with
  | nil => rfl
  | cons r rs ih =>
    refine (ih _ fun r' hr => h r' (List.mem_cons_of_mem r hr)).trans ?_
    exact answer_stage_of_ne b (h r List.mem_cons_self) _

theorem hand_stage_settled {rs : List Request}
    (h : (b.hand rs).stage i = some (.settled o)) : b.stage i = some (.settled o) ∨
      (o = .error .eventLoopClosed ∧ ∃ r ∈ rs, r.promise? = some i) := by
  induction rs generalizing b with
  | nil => exact .inl h
  | cons r rs ih =>
    rcases ih _ h with h | ⟨ho, r', hr, hi⟩
    · rcases answer_stage_settled b h with h | ⟨ho, hi⟩
      · exact .inl h
      · exact .inr ⟨ho, r, List.mem_cons_self, hi⟩
    · exact .inr ⟨ho, r', List.mem_cons_of_mem r hr, hi⟩

end

end Board

/-! ## Who has not been told yet -/

namespace System

section

variable {s : System} {l : LoopId} {i : PromiseId}

theorem promise_stage {stage : Bridge.Stage} (h : s.board.stage i = some stage) :
    (s.process.promise i).stage = stage := by
  obtain ⟨x, hx, rfl⟩ :=
    Option.map_eq_some_iff.mp (show s.process.promises[i]?.map (·.stage) = _ from h)
  rw [Process.promise, Array.getD_eq_getD_getElem?, hx]
  rfl

theorem untold_of_agrees (h : (s.process.promise i).stage.Agrees 0 0 0) : s.board.Untold i := by
  intro stage hs
  rw [promise_stage hs] at h
  cases stage with
  | submitted => rfl
  | accepted => exact absurd h.1 (by simp)
  | settled o => exact absurd h.1 (by simp)

/-- A driver has told nothing about the request that it has in hand. -/
theorem Sound.untold_inHand (h : s.Sound) (hand : (s.board.desk l).phase.promise? = some i) :
    s.board.Untold i := by
  obtain ⟨queued, accepts, rejects, finishes⟩ :=
    (h.books.ledger l).of_inHand (h.books.tickets.queuings_le i) hand
  have agrees := h.books.tickets.agrees l i queued
  rw [Process.Agrees, accepts, rejects, finishes] at agrees
  exact untold_of_agrees agrees

theorem isFor_le_sum {α : Type} {xs : List α} {f : α → Option PromiseId} {x : α} (hx : x ∈ xs)
    (hf : f x = some i) : 1 ≤ (xs.map fun x => isFor i (f x)).sum := by
  obtain ⟨pre, post, rfl⟩ := List.append_of_mem hx
  simp [isFor, hf]
  omega

theorem Sound.untold_waiting (h : s.Sound) {r : Request} (hr : r ∈ (s.board.desk l).requests)
    (hi : r.promise? = some i) : s.board.Untold i := by
  have waits : 1 ≤ (s.process.loop l).waiting i := isFor_le_sum hr hi
  have taken := (h.books.ledger l).taken i
  have decided := (h.books.ledger l).decided i
  have ended := (h.books.ledger l).ended i
  have once := Nat.le_trans (s.process.occurrences_le_queuings l i)
    (h.books.tickets.queuings_le i)
  have agrees := h.books.tickets.agrees l i (by omega)
  rw [Process.Agrees, show s.process.occurrences .accepted l i = 0 by omega,
    show s.process.occurrences .rejected l i = 0 by omega,
    show s.process.occurrences .finished l i = 0 by omega] at agrees
  exact untold_of_agrees agrees

theorem pendingIn_pos {r : Request} (hr : (l, r) ∈ s.board.pending) (hi : r.promise? = some i) :
    1 ≤ pendingIn s.chores i := by
  obtain ⟨⟨t, c⟩, hc, he⟩ := List.mem_filterMap.mp (show (l, r) ∈ pushes s.chores from hr)
  refine isFor_le_sum (f := fun c : ThreadId × Chore => c.2.promise?) hc ?_
  cases c with
  | enqueue k r' =>
    cases he
    exact hi
  | _ => cases he

theorem Sound.untold_pending (h : s.Sound) {r : Request} (hr : (l, r) ∈ s.board.pending)
    (hi : r.promise? = some i) : s.board.Untold i :=
  untold_of_agrees (h.books.tickets.waiting i (pendingIn_pos hr hi))

/-- The caller of a task that is tracked has been told that it has been started, and no more. -/
theorem Sound.stage_tracked (h : s.Sound) {x : Tracked} (hx : x ∈ (s.board.desk l).tasks) :
    s.board.stage x.promise = some .accepted := by
  obtain ⟨n, here⟩ := List.getElem?_of_mem hx
  obtain ⟨queued, accepts, rejects, finishes⟩ :=
    (h.books.ledger l).of_tracked (h.books.tickets.queuings_le x.promise) here rfl
  have made := h.books.tickets.lt_size queued
  have agrees := h.books.tickets.agrees l x.promise queued
  rw [Process.Agrees, accepts, rejects, finishes] at agrees
  have there : s.board.stage x.promise = some (s.process.promises[x.promise]).stage :=
    congrArg (Option.map Promise.stage) (Array.getElem?_eq_getElem made)
  rw [promise_stage there] at agrees
  rw [there]
  generalize (s.process.promises[x.promise]).stage = stage at agrees
  cases stage with
  | accepted => rfl
  | submitted => exact absurd agrees.1 (by simp)
  | settled o => exact absurd agrees.2 (by simp)

theorem Sound.unsettled_tracked (h : s.Sound) {x : Tracked} (hx : x ∈ (s.board.desk l).tasks) :
    s.board.Unsettled x.promise := by
  intro o ho
  rw [h.stage_tracked hx] at ho
  cases ho

theorem Sound.stage_new (s : System) : s.board.stage s.process.promises.size = none := by
  simp [board, Process.board]

end

/-! ## What an act tells -/

/-- Why an action tells a caller what its request came to, and what the caller learns. -/
inductive Resolves (s : System) : Action → PromiseId → Bridge.Outcome → Prop where
  /-- the queue is closed before it takes the request -/
  | refused (n : Nat) {l : LoopId} {r : Request} {i : PromiseId}
      (pending : (l, r) ∈ s.board.pending) (closed : (s.board.desk l).isOpen = false)
      (h : r.promise? = some i) : Resolves s (.proceed n) i (.error .eventLoopClosed)
  /-- the driver leaves while the request waits in the queue -/
  | cleared {l : LoopId} {r : Request} {i : PromiseId} (phase : (s.board.desk l).phase = .closing)
      (waiting : r ∈ (s.board.desk l).requests) (h : r.promise? = some i) :
      Resolves s (.drive l) i (.error .eventLoopClosed)
  /-- the driver is to stop, or the signal of the request has been raised -/
  | rejected {l : LoopId} {coroutine : Handle} {token : Cancellation.Token} {i : PromiseId}
      (phase : (s.board.desk l).phase = .starting coroutine token i)
      (h : (s.board.desk l).stopping = true ∨ token.isRequested s.board.signals = true) :
      Resolves s (.drive l) i (.error .canceled)
  /-- the task of the request cannot be set up -/
  | unprepared {l : LoopId} {coroutine : Handle} {token : Cancellation.Token} {i : PromiseId}
      {e : Error} (phase : (s.board.desk l).phase = .starting coroutine token i)
      (h : s.process.setUp l coroutine = .error e) : Resolves s (.drive l) i (.error e)
  /-- the loop of the interpreter fails, and all tasks with it -/
  | failed {l : LoopId} {e : Error} {x : Tracked} (h : s.process.RunFails l e)
      (tracked : x ∈ (s.board.desk l).tasks) : Resolves s (.drive l) x.promise (.error e)
  /-- the task of the request is found to be done -/
  | concluded {l : LoopId} {n : Nat} {x : Tracked} {o : Bridge.Outcome}
      (phase : (s.board.desk l).phase = .concluding n) (here : (s.board.desk l).tasks[n]? = some x)
      (h : s.process.answer? l x = some o) :
      Resolves s (.drive l) x.promise (s.process.kept l x o)

section

variable {s : System} {a : Action} {ds : List Deed} {b : Board} {i : PromiseId}
  {o : Bridge.Outcome}

/-- Nothing but what `Resolves` lists settles a promise. -/
theorem Act.resolves (h : s.Act a ds b) (before : s.board.Unsettled i)
    (after : b.stage i = some (.settled o)) : s.Resolves a i o := by
  cases h with
  | submit t l awaitable coroutine token =>
    replace after : Function.update s.board.stage s.process.promises.size (some .submitted) i =
        some (.settled o) := after
    by_cases hi : i = s.process.promises.size
    · subst hi
      rw [Function.update_self] at after
      cases after
    · rw [Function.update_of_ne hi] at after
      exact absurd after (before o)
  | refuse n l r pre post pending closed =>
    rcases Board.answer_stage_settled _ after with h | ⟨rfl, hi⟩
    · exact absurd h (before o)
    · exact .refused n (by simp [pending]) closed hi
  | fail l e hf =>
    rcases Board.fail_stage_settled _ after with h | ⟨rfl, x, hx, rfl⟩
    · exact absurd h (before o)
    · exact .failed hf hx
  | takeCancel l id rest phase hr =>
    rw [Board.cancelOne_stage] at after
    exact absurd after (before o)
  | takeStop l rest phase hr =>
    rw [Board.stopAll_stage] at after
    exact absurd after (before o)
  | reject l coroutine token j why phase hw =>
    rcases Board.tell_stage_settled s.board after with h | ⟨ho, rfl⟩
    · exact absurd h (before o)
    · cases ho
      exact .rejected phase (hw.imp And.right fun h => h.2.2)
  | unprepared l coroutine token j e phase running unrequested he =>
    rcases Board.tell_stage_settled { s.board with nextTask := _ } after with h | ⟨ho, rfl⟩
    · exact absurd h (before o)
    · cases ho
      exact .unprepared phase he
  | accept l coroutine x phase awaited =>
    rcases Board.tell_stage_settled s.board after with h | ⟨ho, rfl⟩
    · exact absurd h (before o)
    · cases ho
  | disown l coroutine x phase abandoned =>
    rw [Board.cancelOne_stage] at after
    rcases Board.tell_stage_settled s.board after with h | ⟨ho, rfl⟩
    · exact absurd h (before o)
    · cases ho
  | conclude l n x outcome phase here he =>
    rcases Board.tell_stage_settled (s.board.giveUp x.registration) after with h | ⟨ho, rfl⟩
    · exact absurd h (before o)
    · cases ho
      exact .concluded phase here he
  | leave l phase =>
    rcases Board.hand_stage_settled _ after with h | ⟨rfl, r, hr, hi⟩
    · exact absurd h (before o)
    · exact .cleared phase hr hi
  | _ => exact absurd after (before o)

/-- What a caller has been told stands. -/
theorem Act.settled (sound : s.Sound) (h : s.Act a ds b) (before : s.board.stage i = some (.settled o)) :
    b.stage i = some (.settled o) := by
  have told {j : PromiseId} (hj : s.board.Unsettled j) : i ≠ j := fun he => hj o (he ▸ before)
  cases h with
  | submit t l awaitable coroutine token =>
    refine (Function.update_of_ne (fun hi => ?_) ..).trans before
    rw [hi, Sound.stage_new] at before
    cases before
  | refuse n l r pre post pending closed =>
    refine (Board.answer_stage_of_ne _ (fun hi => ?_) _).trans before
    exact told (sound.untold_pending (l := l) (by simp [pending]) hi).unsettled rfl
  | fail l e hf =>
    exact (Board.fail_stage_of_ne _ (fun x hx => (told (sound.unsettled_tracked hx)).symm) e).trans
      before
  | takeCancel l id rest phase hr => rwa [Board.cancelOne_stage]
  | takeStop l rest phase hr => rwa [Board.stopAll_stage]
  | reject l coroutine token j why phase hw =>
    exact (Board.tell_stage_of_ne _ (told (sound.untold_inHand (by rw [phase]; rfl)).unsettled) _).trans
      before
  | unprepared l coroutine token j e phase running unrequested he =>
    exact (Board.tell_stage_of_ne _ (told (sound.untold_inHand (by rw [phase]; rfl)).unsettled) _).trans
      before
  | accept l coroutine x phase awaited =>
    exact (Board.tell_stage_of_ne _ (told (sound.untold_inHand (by rw [phase]; rfl)).unsettled) _).trans
      before
  | disown l coroutine x phase abandoned =>
    rw [Board.cancelOne_stage]
    exact (Board.tell_stage_of_ne _ (told (sound.untold_inHand (by rw [phase]; rfl)).unsettled) _).trans
      before
  | conclude l n x outcome phase here he =>
    exact (Board.tell_stage_of_ne _
      (told (sound.unsettled_tracked (List.mem_of_getElem? here))) _).trans before
  | leave l phase =>
    exact (Board.hand_stage_of_ne _ fun r hr hi => told (sound.untold_waiting hr hi).unsettled rfl).trans
      before
  | _ => exact before

end

end System

end EmbeddedPython
