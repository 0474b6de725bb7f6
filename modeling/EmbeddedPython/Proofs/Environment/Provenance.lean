import EmbeddedPython.Proofs.Environment.Turn

/-
  Where tasks, requests and tokens come from

  A task has the next number that is free, a request in a queue has been left
  for a thread to push, and a token belongs to a source that has been made. None
  of this is ever undone: numbers and signals only become more.
-/

namespace EmbeddedPython

open Activity Bridge

/-! ## The signals that there are -/

namespace Board

theorem size_giveUpAll (b : Board) (xs : List Tracked) :
    (b.giveUpAll xs).signals.size = b.signals.size := by
  induction xs generalizing b with
  | nil => rfl
  | cons x xs ih => exact (ih _).trans (Cancellation.size_without ..)

theorem size_putSignal (b : Board) (i : Nat) (s : Cancellation.Signal CancelCall) :
    (b.putSignal i s).signals.size = b.signals.size :=
  Array.size_setIfInBounds

theorem size_cancelOne (b : Board) (l : LoopId) (id : TaskId) :
    (b.cancelOne l id).signals.size = b.signals.size := by
  rw [cancelOne]
  split
  · rfl
  · exact Cancellation.size_without ..

theorem size_stopAll (b : Board) (l : LoopId) :
    (b.stopAll l).signals.size = b.signals.size := by
  rw [stopAll]
  split
  · rfl
  · exact size_giveUpAll ..

theorem nextTask_cancelOne (b : Board) (l : LoopId) (id : TaskId) :
    (b.cancelOne l id).nextTask = b.nextTask := by
  rw [cancelOne]
  split <;> rfl

theorem nextTask_stopAll (b : Board) (l : LoopId) : (b.stopAll l).nextTask = b.nextTask := by
  rw [stopAll]
  split
  · rfl
  · exact giveUpAll_nextTask ..

theorem pending_cancelOne (b : Board) (l : LoopId) (id : TaskId) :
    (b.cancelOne l id).pending = b.pending := by
  rw [cancelOne]
  split <;> rfl

theorem pending_stopAll (b : Board) (l : LoopId) : (b.stopAll l).pending = b.pending := by
  rw [stopAll]
  split
  · rfl
  · exact giveUpAll_pending ..

end Board

namespace System

variable {s : System} {a : Action} {ds : List Deed} {b : Board} {l : LoopId}

theorem Act.size_le (h : s.Act a ds b) : s.board.signals.size ≤ b.signals.size := by
  cases h with
  | source => exact Nat.le_of_lt (Nat.lt_of_lt_of_eq (Nat.lt_succ_self _) (Array.size_push _).symm)
  | refuse => rw [Board.answer_signals]
  | raise | register | overtaken => exact Nat.le_of_eq (Board.size_putSignal ..).symm
  | fail =>
    rw [Board.change_signals, Board.fail_signals]
    exact Nat.le_of_eq (Board.size_giveUpAll ..).symm
  | takeCancel => rw [Board.size_cancelOne, Board.change_signals]
  | disown => rw [Board.size_cancelOne, Board.change_signals, Board.tell_signals]
  | takeStop => rw [Board.size_stopAll, Board.change_signals]
  | conclude => exact Nat.le_of_eq (Cancellation.size_without ..).symm
  | leave => rw [Board.change_signals, Board.hand_signals]
  | _ => exact Nat.le_refl _

theorem Act.nextTask_le (h : s.Act a ds b) : s.board.nextTask ≤ b.nextTask := by
  cases h with
  | refuse => rw [Board.answer_nextTask]
  | fail => rw [Board.change_nextTask, Board.fail_nextTask]
  | takeCancel => rw [Board.nextTask_cancelOne, Board.change_nextTask]
  | disown => rw [Board.nextTask_cancelOne, Board.change_nextTask, Board.tell_nextTask]
  | takeStop => rw [Board.nextTask_stopAll, Board.change_nextTask]
  | unprepared | start => exact Nat.le_succ _
  | leave => rw [Board.change_nextTask, Board.hand_nextTask]
  | _ => exact Nat.le_refl _

/-- A task is started alone, with the next number. -/
theorem Act.numbers (h : s.Act a ds b) {id : TaskId} {i : PromiseId} {token : Cancellation.Token}
    (start : .start l id i token ∈ ds) : ds = [.start l id i token] ∧ id = s.board.nextTask ∧
      b.nextTask = s.board.nextTask + 1 := by
  cases h with
  | start =>
    cases List.mem_singleton.mp start
    exact ⟨rfl, rfl, rfl⟩
  | takeStop k => cases hs : (s.board.desk k).stopping <;> simp [hs] at start
  | _ => simp at start

/-- What a queue takes has been left to be pushed, or is the request to cancel a task that the driver
has been too late to register. -/
theorem Act.pushes (h : s.Act a ds b) {r : Request} (push : .push l r ∈ ds) :
    (l, r) ∈ s.board.pending ∨
      ∃ c x, (b.desk l).phase = .accepting c x ∧ r = .cancel x.id := by
  cases h with
  | push n k r' pre post hr =>
    cases List.mem_singleton.mp push
    exact .inl (by simp [hr])
  | overtaken k c token x i phase =>
    cases List.mem_singleton.mp push
    refine .inr ⟨c, { x with registration := .nothing }, ?_, rfl⟩
    rw [Board.change_desk_self]
  | takeStop k => cases hs : (s.board.desk k).stopping <;> simp [hs] at push
  | _ => simp at push

/-- What is left to be pushed. -/
theorem Act.pending_of (h : s.Act a ds b) {r : Request} (hr : (l, r) ∈ b.pending) :
    (l, r) ∈ s.board.pending ∨ r = .stop ∨ (∃ id, r = .cancel id) ∨
      ∃ t awaitable token, a = .submit t l awaitable token ∧
        r = .schedule (Handle.adopt awaitable.ref) token s.process.promises.size := by
  cases h with
  | quiet a more stops =>
    exact (List.mem_append.mp hr).imp_right fun hr => .inl (stops _ hr)
  | submit t k awaitable c token same =>
    refine (List.mem_append.mp hr).imp_right fun hr => .inr (.inr ?_)
    cases List.mem_singleton.mp hr
    exact ⟨t, awaitable, token, rfl, by rw [same]⟩
  | raise t i =>
    refine (List.mem_append.mp hr).imp_right fun hr => .inr (.inl ?_)
    obtain ⟨w, -, he⟩ := List.mem_map.mp hr
    cases he
    exact ⟨_, rfl⟩
  | push n k r' pre post hp =>
    rcases List.mem_append.mp hr with hr | hr <;> exact .inl (by simp [hp, hr])
  | refuse n k r' pre post hp =>
    rw [Board.answer_pending] at hr
    rcases List.mem_append.mp hr with hr | hr <;> exact .inl (by simp [hp, hr])
  | fail =>
    rw [Board.change_pending, Board.fail_pending] at hr
    exact .inl hr
  | takeCancel | disown =>
    rw [Board.pending_cancelOne] at hr
    exact .inl hr
  | takeStop =>
    rw [Board.pending_stopAll] at hr
    exact .inl hr
  | leave =>
    rw [Board.change_pending, Board.hand_pending] at hr
    exact .inl hr
  | _ => exact .inl hr

end System

/-! ## The tokens of requests -/

/-- The token that a driver starts a task with. -/
def Bridge.Phase.token? : Phase → Option Cancellation.Token
  | starting _ token _ | registering _ token _ => some token
  | _ => none

/-- The signals of all tokens are there. -/
structure Sourced (b : Board) : Prop where
  pending : ∀ l c token i, (l, .schedule c token i) ∈ b.pending → token.Within b.signals.size
  queued : ∀ l c token i, .schedule c token i ∈ (b.desk l).requests →
    token.Within b.signals.size
  held : ∀ l token, (b.desk l).phase.token? = some token → token.Within b.signals.size

/-- The requests of a desk and its token come from what has been there before, and from what is
pushed. -/
theorem Bridge.Desk.Turn.tokens {l : LoopId} {d d' : Desk} {ds : List Deed} (h : d.Turn l ds d') :
    (∀ r ∈ d'.requests, r ∈ d.requests ∨ .push l r ∈ ds) ∧
    ∀ token, d'.phase.token? = some token → d.phase.token? = some token ∨
      ∃ c i, .schedule c token i ∈ d.requests := by
  cases h with
  | push r => exact ⟨by simp, fun _ => .inl⟩
  | go phase goes => exact ⟨fun _ => .inl, by cases goes <;> simp [Phase.token?]⟩
  | takeSchedule c token i rest phase hr =>
    refine ⟨fun r hr' => .inl (hr ▸ List.mem_cons_of_mem _ hr'), fun token' ht => .inr ⟨c, i, ?_⟩⟩
    cases ht
    exact hr ▸ List.mem_cons_self
  | start c token i x phase => simp +contextual [phase, Phase.token?]
  | overtaken c token x phase => exact ⟨by simp, by simp [Phase.token?]⟩
  | _ => simp_all [Phase.token?, withdraw, Desk.fresh]

theorem Sourced.act {s : System} {a : Action} {ds : List Deed} {b : Board}
    (h : Sourced s.board) (act : s.Act a ds b)
    (made : ∀ t l awaitable token, a = .submit t l awaitable token →
      token.Within s.board.signals.size) : Sourced b := by
  have size := act.size_le
  -- what a queue takes has been left before
  have queued (l : LoopId) (c : Handle) (token : Cancellation.Token) (i : PromiseId)
      (hr : .schedule c token i ∈ (s.board.desk l).requests ∨
        .push l (.schedule c token i) ∈ ds) : token.Within s.board.signals.size := by
    rcases hr with hr | hr
    · exact h.queued l c token i hr
    · rcases act.pushes hr with hr | ⟨_, _, -, he⟩
      · exact h.pending l c token i hr
      · cases he
  refine ⟨fun l c token i hr => ?_, fun l c token i hr => ?_, fun l token ht => ?_⟩
  · rcases act.pending_of hr with hr | he | ⟨_, he⟩ | ⟨t, awaitable, _, ha, he⟩
    · exact (h.pending l c token i hr).mono size
    · cases he
    · cases he
    · cases he
      exact (made t l awaitable token ha).mono size
  · have origin := (act.turn l).tokens.1 _ hr
    exact (queued l c token i (origin.imp_right fun hp => (mem_about.mp hp).1)).mono size
  · rcases (act.turn l).tokens.2 token ht with ht | ⟨c, i, hr⟩
    · exact (h.held l token ht).mono size
    · exact (h.queued l c token i hr).mono size

end EmbeddedPython
