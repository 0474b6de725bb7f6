import EmbeddedPython.Proofs.Environment.Collapse
import EmbeddedPython.Proofs.Environment.Likeness

/-
  Requests that are turned away

  A request is in one place at a time: it is to be pushed, it waits in a queue,
  or a driver has it in hand. Its task is only ever set up by a driver that has
  it in hand, and whoever has been told what comes of it is told nothing else.
  So the task of a request that is turned away has not been set up and is not
  set up later, and the process goes on as if the driver had let go of the
  handle of its own accord.
-/

namespace EmbeddedPython

open Activity Bridge

/-! ## Who has been told something stays so -/

namespace Board

variable (b : Board) {i j : PromiseId}

theorem Untold.of_tell {b : Board} {stage : Bridge.Stage} (told : stage ≠ .submitted)
    (h : (b.tell j stage).Untold i) : b.Untold i := by
  intro old hs
  by_cases hi : i = j
  · subst hi
    refine absurd (h stage ?_) told
    rw [tell_stage_self, hs]
    rfl
  · exact h old ((tell_stage_of_ne b hi stage).trans hs)

theorem Untold.of_answer {b : Board} {r : Request} {e : Error} (h : (b.answer r e).Untold i) :
    b.Untold i := by
  cases r with
  | schedule c token j => exact .of_tell (by simp) h
  | _ => exact h

theorem Untold.of_fail {b : Board} {xs : List Tracked} {e : Error} (h : (b.fail xs e).Untold i) :
    b.Untold i := by
  induction xs generalizing b with
  | nil => exact h
  | cons x xs ih => exact Untold.of_tell (b := b.giveUp x.registration) (by simp) (ih h)

theorem Untold.of_hand {b : Board} {rs : List Request} (h : (b.hand rs).Untold i) : b.Untold i := by
  induction rs generalizing b with
  | nil => exact h
  | cons r rs ih => exact .of_answer (ih h)

theorem Untold.congr {b b' : Board} (h : b'.Untold i) (same : b'.stage = b.stage) : b.Untold i :=
  fun stage hs => h stage (same ▸ hs)

end Board

namespace System

variable {s : System} {a : Action} {ds : List Deed} {b : Board} {l : LoopId} {i : PromiseId}

/-- Nothing that is done takes back what a caller has been told. -/
theorem Act.untold (h : s.Act a ds b) (untold : b.Untold i) : s.board.Untold i := by
  cases h with
  | quiet | raise | source | openLoop | push | wait | go | takeSchedule | start | skip | register
  | overtaken => exact untold
  | submit t l awaitable coroutine token same =>
    intro stage hs
    refine untold stage ((Function.update_of_ne ?_ ..).trans hs)
    rintro rfl
    cases hs.symm.trans (Sound.stage_new s)
  | refuse => exact untold.of_answer
  | fail => exact Board.Untold.of_fail untold
  | takeCancel => exact untold.congr (by simp)
  | takeStop => exact untold.congr (by simp)
  | reject => exact Board.Untold.of_tell (b := s.board) (by simp) untold
  | unprepared =>
    exact Board.Untold.of_tell (b := { s.board with nextTask := s.board.nextTask + 1 }) (by simp) untold
  | accept => exact Board.Untold.of_tell (b := s.board) (by simp) untold
  | disown l c x phase abandoned =>
    have told : (s.board.tell x.promise .accepted).Untold i := untold.congr (by simp)
    exact told.of_tell (by simp)
  | conclude l n x outcome =>
    exact Board.Untold.of_tell (b := s.board.giveUp x.registration) (by simp) untold
  | leave => exact Board.Untold.of_hand untold

end System

/-! ## Requests whose task is never set up -/

/-- Whether a deed is that a driver sets up the task of a request, or tries to. -/
inductive Deed.Attempts (i : PromiseId) : Deed → Prop where
  | start (l : LoopId) (id : TaskId) (token : Cancellation.Token) : Attempts i (.start l id i token)
  | fail (l : LoopId) : Attempts i (.reject l i .failed)

theorem Bridge.Phase.promise?_of_task? {phase : Bridge.Phase} {x : Tracked}
    (hand : phase.task? = some x) : phase.promise? = some x.promise := by
  cases phase with
  | registering _ _ y | accepting _ y =>
    cases hand
    rfl
  | _ => cases hand

/-- A driver keeps the task that it sets up in hand until it keeps track of it. -/
theorem Bridge.Desk.Turn.hand {l : LoopId} {d d' : Desk} {ds : List Deed} (h : d.Turn l ds d')
    {x : Tracked} (hand : d.phase.task? = some x) :
    (∃ x', d'.phase.task? = some x' ∧ x'.promise = x.promise) ∨ .track l x.id ∈ ds := by
  cases h with
  | idle | push => exact .inl ⟨x, hand, rfl⟩
  | opened vacant =>
    subst vacant
    cases hand
  | go phase goes =>
    have none : d.phase.task? = none := by
      cases goes <;> simp_all [Phase.task?]
    rw [none] at hand
    cases hand
  | fail phase => rcases phase with phase | ⟨n, phase⟩ <;> (rw [phase] at hand; cases hand)
  | register c token y r phase =>
    rw [phase] at hand
    cases hand
    exact .inl ⟨_, rfl, rfl⟩
  | overtaken c token y phase =>
    rw [phase] at hand
    cases hand
    exact .inl ⟨_, rfl, rfl⟩
  | accept c y phase =>
    rw [phase] at hand
    cases hand
    exact .inr (by simp)
  | disown c y phase =>
    rw [phase] at hand
    cases hand
    exact .inr (by simp)
  | takeSchedule c token i rest phase | takeCancel id rest phase | takeStop rest phase
  | takeAnother rest phase | reject c token i why phase | start c token i y phase
  | conclude n y phase | leave phase =>
    rw [phase] at hand
    cases hand

namespace System

variable {s : System} {a : Action} {ds : List Deed} {b : Board} {l : LoopId} {i : PromiseId}

/-- The promise of the request that a driver has in hand has been made. -/
theorem Sound.made_inHand (sound : s.Sound) (hand : (s.board.desk l).phase.promise? = some i) :
    (s.board.stage i).isSome = true := by
  obtain ⟨queued, -⟩ := (sound.books.ledger l).of_inHand (sound.books.tickets.queuings_le _) hand
  exact isSome_stage (sound.books.tickets.lt_size queued)

/-- The caller of a task that is set up is told when the driver keeps track of it. -/
theorem Act.hand (sound : s.Sound) (h : s.Act a ds b) {x : Tracked}
    (hand : (s.board.desk l).phase.task? = some x) :
    (∃ x', (b.desk l).phase.task? = some x' ∧ x'.promise = x.promise) ∨ ¬ b.Untold x.promise := by
  refine ((h.turn l).hand hand).imp_right fun track untold => ?_
  have track := (mem_about.mp track).1
  -- the promise that is in hand has been made
  have made : (s.board.stage x.promise).isSome = true := sound.made_inHand (Phase.promise?_of_task? hand)
  obtain ⟨stage, hs⟩ := Option.isSome_iff_exists.mp made
  have told {b : Board} (told : b.stage x.promise = some .accepted) : ¬ b.Untold x.promise :=
    fun h => nomatch h _ told
  cases h with
  | accept k c y phase awaited =>
    obtain ⟨rfl, -⟩ : l = k ∧ x.id = y.id := by simpa using track
    cases (congrArg Phase.task? phase).symm.trans hand
    refine told ?_ untold
    rw [Board.change_stage, Board.tell_stage_self, hs]
    rfl
  | disown k c y phase abandoned =>
    obtain ⟨rfl, -⟩ : l = k ∧ x.id = y.id := by simpa using track
    cases (congrArg Phase.task? phase).symm.trans hand
    refine told ?_ untold
    rw [Board.cancelOne_stage, Board.change_stage, Board.tell_stage_self, hs]
    rfl
  | takeStop k rest phase =>
    rcases hst : (s.board.desk k).stopping <;> simp [hst] at track
  | _ => simp at track

/-- A driver that sets up a task, or tries to, has its request in hand, and tells the caller at once
if it cannot. -/
theorem Act.attempted (sound : s.Sound) (h : s.Act a ds b) {d : Deed} (attempt : d.Attempts i)
    (done : d ∈ ds) : ∃ l c token, (s.board.desk l).phase = .starting c token i ∧
      ((∃ x, (b.desk l).phase.task? = some x ∧ x.promise = i) ∨
        d = .reject l i .failed ∧ ¬ b.Untold i) := by
  have stopped {l : LoopId} (rest : List Request)
      (hd : d ∈ Deed.take l .stop :: if (s.board.desk l).stopping then []
        else (s.board.desk l).tasks.map fun x => .ask l x.id) : False := by
    cases attempt <;> rcases hst : (s.board.desk l).stopping <;> simp [hst] at hd
  cases attempt with
  | start l id token =>
    cases h with
    | start k c token' j task done' phase =>
      obtain ⟨rfl, rfl, rfl, rfl⟩ : l = k ∧ id = s.board.nextTask ∧ i = j ∧ token = token' := by
        simpa using done
      have desk := Board.change_desk_self { s.board with nextTask := s.board.nextTask + 1 } l
        fun d => { d with phase := .registering c token ⟨s.board.nextTask, task, done', i, .nothing⟩ }
      exact ⟨l, c, token, phase, .inl ⟨_, by rw [desk]; rfl, rfl⟩⟩
    | takeStop k rest => exact (stopped rest done).elim
    | _ => simp at done
  | fail l =>
    cases h with
    | unprepared k c token j e phase =>
      obtain ⟨rfl, rfl⟩ : l = k ∧ i = j := by simpa using done
      obtain ⟨stage, made⟩ := Option.isSome_iff_exists.mp
        (sound.made_inHand (l := l) (show (s.board.desk l).phase.promise? = some i by rw [phase]; rfl))
      refine ⟨l, c, token, phase, .inr ⟨rfl, fun untold => nomatch untold (.settled (.error e)) ?_⟩⟩
      rw [Board.change_stage, Board.tell_stage_self]
      exact congrArg (Option.map _) made
    | reject k c token j why phase refused =>
      obtain ⟨-, -, rfl⟩ : l = k ∧ i = j ∧ Refusal.failed = why := by simpa using done
      simp at refused
    | takeStop k rest => exact (stopped rest done).elim
    | _ => simp at done

/-- What a driver has tried to set up is in hand, or its caller has been told something. -/
theorem attempted_run (attached : Bool) (actions : List Action) {d : Deed} (attempt : d.Attempts i)
    (done : d ∈ history attached actions) :
    (∃ l x, ((run attached actions).board.desk l).phase.task? = some x ∧ x.promise = i) ∨
      ¬ (run attached actions).board.Untold i := by
  revert done
  refine history_induction (I := fun H s => d ∈ H →
    (∃ l x, (s.board.desk l).phase.task? = some x ∧ x.promise = i) ∨ ¬ s.board.Untold i)
    (fun h => nomatch h) (fun H s a sound h act done => ?_) actions
  rcases List.mem_append.mp done with done | done
  · rcases h done with ⟨l, x, hand, rfl⟩ | told
    · exact (act.hand sound hand).imp_left fun ⟨x', hand', same⟩ => ⟨l, x', hand', same⟩
    · exact .inr fun untold => told (act.untold untold)
  · obtain ⟨l, c, token, -, ⟨x, hand, same⟩ | ⟨-, told⟩⟩ := act.attempted sound attempt done
    · exact .inl ⟨l, x, hand, same⟩
    · exact .inr told

/-- A request is in one place only: one that is to be pushed, waits in a queue or is about to be
started is not that of a task. -/
theorem Sound.taskless (sound : s.Sound) (place : (∃ l r, (l, r) ∈ s.board.pending ∧ r.promise? = some i) ∨
      (∃ l, ∃ r ∈ (s.board.desk l).requests, r.promise? = some i) ∨
      ∃ l c token, (s.board.desk l).phase = .starting c token i)
    {k : LoopId} {x : Tracked} (hand : (s.board.desk k).phase.task? = some x) : x.promise ≠ i := by
  rintro rfl
  have inHand : (s.process.loop k).driver.phase.promise? = some x.promise :=
    Phase.promise?_of_task? hand
  obtain ⟨queued, -⟩ := (sound.books.ledger k).of_inHand (sound.books.tickets.queuings_le _) inHand
  have once := sound.books.tickets.once x.promise
  have elsewhere (l : LoopId) (other : l ≠ k)
      (there : 0 < s.process.occurrences .queued l x.promise) : False := by
    have := s.process.occurrences_add_le_queuings other.symm x.promise
    omega
  rcases place with ⟨l, r, hr, hi⟩ | ⟨l, r, hr, hi⟩ | ⟨l, c, token, phase⟩
  · have pending : 1 ≤ pendingIn s.chores x.promise := pendingIn_pos hr hi
    have := s.process.occurrences_le_queuings k x.promise
    omega
  · have waits : 1 ≤ (s.process.loop l).waiting x.promise := isFor_le_sum hr hi
    have taken := (sound.books.ledger l).taken x.promise
    by_cases hl : l = k
    · subst hl
      have decided := (sound.books.ledger l).decided x.promise
      rw [EventLoop.inHand, inHand, isFor, if_pos rfl] at decided
      have := s.process.occurrences_le_queuings l x.promise
      omega
    · exact elsewhere l hl (by omega)
  · by_cases hl : l = k
    · subst hl
      rw [phase] at hand
      cases hand
    · have hand' : (s.process.loop l).driver.phase.promise? = some x.promise := congrArg Phase.promise? phase
      exact elsewhere l hl
        ((sound.books.ledger l).of_inHand (sound.books.tickets.queuings_le _) hand').1

/-- No task is set up for a caller who has been told what comes of its request. -/
theorem Sound.unattempted (sound : s.Sound) {o : Bridge.Outcome}
    (told : (s.process.promise i).stage = .settled o) (later : List Action) {d : Deed}
    (attempt : d.Attempts i) : d ∉ s.historyFrom later := by
  induction later generalizing s with
  | nil => exact List.not_mem_nil
  | cons a later ih =>
    intro done
    rcases List.mem_append.mp done with done | done
    · obtain ⟨l, c, token, phase, -⟩ := (act sound a).attempted sound attempt done
      have untold : s.board.Untold i := sound.untold_inHand (l := l) (by rw [phase]; rfl)
      exact nomatch untold _ (board_settled told)
    · exact ih (sound.step a) (sound.stands told [a]) done

/-- No task has been or is set up for a request that is turned away. -/
theorem unattempted_run (attached : Bool) (before later : List Action) {a : Action}
    (untold : (run attached before).board.Untold i)
    (taskless : ∀ l x, ((run attached before).board.desk l).phase.task? = some x → x.promise ≠ i)
    {o : Bridge.Outcome}
    (told : (((run attached before).step a).process.promise i).stage = .settled o) {d : Deed}
    (attempt : d.Attempts i) (undone : d ∉ (run attached before).deeds a) :
    d ∉ history attached (before ++ a :: later) := by
  intro done
  rw [history_append, historyFrom] at done
  rcases List.mem_append.mp done with done | done
  · rcases attempted_run attached before attempt done with ⟨l, x, hand, same⟩ | told
    · exact taskless l x hand same
    · exact told untold
  rcases List.mem_append.mp done with done | done
  · exact undone done
  · exact ((sound_run attached before).step a).unattempted told later attempt done

end System

/-! ## Requests as if they were not there -/

namespace Process

variable {i : PromiseId} {p q : Process}

/-- A process whose driver has nothing in hand and goes on with its queue. -/
def emptyHanded (p : Process) (l : LoopId) : Process :=
  p.changeLoop l fun x => { x with driver := { x.driver with phase := .draining } }

/-- Whoever has been given no object can be told of an error. -/
theorem SameBut.settle (unanswered : ∀ x, (p.promise i).stage ≠ .settled (.ok x)) (e : Error) :
    p.SameBut i (p.settle i (.error e)) := by
  refine .intro (p := p) p.journal ⟨Array.size_modify, fun j => ?_, fun j hj => ?_, fun x => ?_⟩
  · rw [getD_modify]
    split
    · next hj => rw [hj.1]
    · rfl
  · rw [getD_modify, if_neg fun h => hj h.1]
  · rw [getD_modify]
    split
    · exact ⟨fun h => (by cases h), fun h => absurd h (unanswered x)⟩
    · exact .rfl

theorem SameBut.log (event : Bridge.Event) (l : LoopId) (j : PromiseId) : p.SameBut i (p.log event l j) :=
  .intro (p := p) (⟨event, l, j⟩ :: p.journal) (.refl i p.promises)

/-- A driver that rejects a request has nothing in hand. -/
theorem SameBut.reject (unanswered : ∀ x, (p.promise i).stage ≠ .settled (.ok x)) (l : LoopId)
    (e : Error) : (p.emptyHanded l).SameBut i (p.reject l i e) :=
  .trans (.log .rejected l i) (.settle (p := (p.emptyHanded l).log .rejected l i) unanswered e)

end Process

namespace Bridge

/-- All that a driver does with what it rejects is to let go of it. -/
theorem refuse_sameBut {p : Process} {i : PromiseId}
    (unanswered : ∀ x, (p.promise i).stage ≠ .settled (.ok x)) (l : LoopId) (c : Handle) (e : Error) :
    (tell (Process.driverThread l) c.drop (p.emptyHanded l)).2.SameBut i (refuse l c i e p).2 := by
  rw [refuse, run_modify_bind]
  exact (tell_likens _ _ _ _ (.reject unanswered l e)).2

end Bridge

namespace System

variable {s : System} {l : LoopId} {i : PromiseId}

theorem step_operate (s : System) (t : ThreadId) (op : Op Unit) :
    s.step (.operate t op) = { s with process := (tell t op s.process).2 } := by
  show System.mk _ (s.chores ++ []) = _
  rw [List.append_nil]
  rfl

theorem unanswered_of_untold (untold : s.board.Untold i) (x : Handle) :
    (s.process.promise i).stage ≠ .settled (.ok x) := by
  rw [stage_submitted untold]
  simp

end System

end EmbeddedPython
