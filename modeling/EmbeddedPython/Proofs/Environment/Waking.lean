import EmbeddedPython.Proofs.Environment.Opening
import EmbeddedPython.Proofs.Environment.Outfit

/-
  No wake-up is lost

  A driver looks at its requests and its tasks only when its loop returns, and
  the loop returns only when it has been told to stop. Between its last look at
  the requests and the return of the loop, whoever adds a request tells the loop
  or is about to, and so does every task that becomes done. What has been told
  stays told until the loop returns, and then the driver looks.
-/

namespace EmbeddedPython

open Activity Bridge

namespace Bridge

/-- Whether a driver is in the loop of the interpreter. -/
inductive Phase.InLoop : Phase → Prop where
  | looping : InLoop .looping
  | iterating (left : Nat) : InLoop (.iterating left)

/-- Whether a driver takes no request before its loop has returned once more. -/
inductive Phase.Heedless : Phase → Prop where
  | entering : Heedless .entering
  | looping : Heedless .looping
  | iterating (left : Nat) : Heedless (.iterating left)
  | concluding (next : Nat) : Heedless (.concluding next)

theorem Phase.InLoop.heedless {phase : Phase} (h : phase.InLoop) : phase.Heedless := by
  cases h with
  | looping => exact .looping
  | iterating left => exact .iterating left

/-- Whether a driver does not look at a task before its loop has returned once more. -/
inductive Desk.Passed (d : Desk) (x : Tracked) : Prop where
  | around (phase : d.phase = .entering ∨ d.phase.InLoop) (here : x ∈ d.tasks)
  | behind {next i : Nat} (phase : d.phase = .concluding next) (before : i < next)
      (here : d.tasks[i]? = some x)

theorem Desk.Passed.heedless {d : Desk} {x : Tracked} (h : d.Passed x) : d.phase.Heedless := by
  cases h with
  | around phase =>
    rcases phase with h | h
    · exact h ▸ .entering
    · exact h.heedless
  | behind phase => exact phase ▸ .concluding _

theorem Desk.Passed.mem {d : Desk} {x : Tracked} (h : d.Passed x) : x ∈ d.tasks := by
  cases h with
  | around _ here => exact here
  | behind _ _ here => exact List.mem_of_getElem? here

theorem Desk.Passed.congr {d d' : Desk} {x : Tracked} (h : d.Passed x) (phase : d.phase = d'.phase)
    (tasks : d.tasks = d'.tasks) : d'.Passed x := by
  cases h with
  | around h here => exact .around (phase ▸ h) (tasks ▸ here)
  | behind h before here => exact .behind (phase ▸ h) before (tasks ▸ here)

end Bridge

/-! ## What a driver leaves behind unseen -/

namespace System

variable {s : System} {l : LoopId}

/-- A driver goes on heedlessly only with no request left or with the requests that it has not
heeded before, and past a task only if it has passed it before or has found it not to be done. -/
theorem Act.heedless {ds : List Deed} {b : Board} (h : s.Act (.drive l) ds b)
    (after : (b.desk l).phase.Heedless) :
    ((b.desk l).requests = [] ∨ (s.board.desk l).phase.Heedless ∧
      (b.desk l).requests = (s.board.desk l).requests) ∧
    ∀ x, (b.desk l).Passed x → x ∈ (s.board.desk l).tasks ∧
      ((s.board.desk l).Passed x ∨ s.process.answer? l x = none) := by
  cases h with
  | quiet _ _ _ other => exact absurd rfl (other l)
  | openLoop _ _ other => exact absurd rfl (other l)
  | wait _ phase => exact ⟨.inr ⟨after, rfl⟩, fun x hx => ⟨hx.mem, .inl hx⟩⟩
  | go _ phase goes runs undone =>
    rw [Board.change_desk_self] at after ⊢
    have around {x : Tracked} (before : (s.board.desk l).phase = .entering ∨
        (s.board.desk l).phase.InLoop) (hx : { s.board.desk l with phase := phase }.Passed x) :
        x ∈ (s.board.desk l).tasks ∧
          ((s.board.desk l).Passed x ∨ s.process.answer? l x = none) :=
      ⟨hx.mem, .inl (.around before hx.mem)⟩
    cases goes with
    | enter h => exact ⟨.inr ⟨h ▸ .entering, rfl⟩, fun x => around (.inl h)⟩
    | begin n h => exact ⟨.inr ⟨h ▸ .looping, rfl⟩, fun x => around (.inr (h ▸ .looping))⟩
    | next n h =>
      exact ⟨.inr ⟨h ▸ .iterating _, rfl⟩, fun x => around (.inr (h ▸ .iterating _))⟩
    | again h => exact ⟨.inr ⟨h ▸ .iterating _, rfl⟩, fun x => around (.inr (h ▸ .iterating _))⟩
    | «return» => cases after
    | drained h requests =>
      refine ⟨.inl requests, fun x hx => ?_⟩
      cases hx with
      | around phase => rcases phase with h | h <;> cases h
      | behind phase before =>
        cases phase
        exact absurd before (Nat.not_lt_zero _)
    | @pass n h task =>
      refine ⟨.inr ⟨h ▸ .concluding _, rfl⟩, fun x hx => ⟨hx.mem, ?_⟩⟩
      cases hx with
      | around phase => rcases phase with h | h <;> cases h
      | @behind _ i phase before here =>
        cases phase
        rcases Nat.lt_succ_iff_lt_or_eq.mp before with before | rfl
        · exact .inl (.behind h before here)
        · exact .inr (undone i x h here)
    | @round n h tasks =>
      refine ⟨.inr ⟨h ▸ .concluding _, rfl⟩, fun x hx => ⟨hx.mem, .inl ?_⟩⟩
      obtain ⟨i, here⟩ := List.mem_iff_getElem?.mp hx.mem
      have before : i < (s.board.desk l).tasks.length := (List.getElem?_eq_some_iff.mp here).1
      exact .behind h (Nat.lt_of_lt_of_le before tasks) here
    | last => cases after
  | conclude _ n x outcome phase here =>
    rw [Board.change_desk_self, Board.tell_desk, Board.giveUp_desk] at after ⊢
    refine ⟨.inr ⟨after, rfl⟩, fun y hy => ?_⟩
    cases hy with
    | around h =>
      rw [phase] at h
      rcases h with h | h <;> cases h
    | @behind _ i h before there =>
      obtain rfl : n = _ := Phase.concluding.inj (phase.symm.trans h)
      rw [List.getElem?_eraseIdx_of_lt before] at there
      exact ⟨List.mem_of_getElem? there, .inl (.behind phase before there)⟩
  | takeCancel _ id rest phase h =>
    rw [Board.cancelOne_phase, Board.change_desk_self] at after
    cases after
  | takeStop _ rest phase h =>
    rw [Board.stopAll_phase, Board.change_desk_self] at after
    cases after
  | disown _ c x phase abandoned =>
    rw [Board.cancelOne_phase, Board.change_desk_self] at after
    cases after
  | _ =>
    rw [Board.change_desk_self] at after
    cases after

end System

/-! ## What is done to a loop until it returns -/

namespace Bridge

variable {p : Process} {l : LoopId} {x : Loop}

theorem pythonLoop?_eq_some : p.pythonLoop? l = some x ↔
    p.host.memory.valueOf (p.loopOf l) = .loop x := by
  rw [Process.pythonLoop?, Process.loopOf]
  split
  next y hy => rw [hy, Option.some_inj, Value.loop.injEq]
  next other => exact ⟨by simp, fun h => absurd h (other x)⟩

theorem changePythonLoop_memory (hx : p.host.memory.valueOf (p.loopOf l) = .loop x)
    (f : Loop → Loop) : (p.changePythonLoop l f).host.memory =
      p.host.memory.setValue (p.loopOf l) (.loop (f x)) := by
  rw [Process.changePythonLoop, pythonLoop?_eq_some.mpr hx]
  rfl

theorem failAll_phase (hl : l < p.loops.size) (e : Error) :
    ((failAll l e p).2.loop l).driver.phase = .closing := by
  have hd := congrArg (fun b : Board => (b.desk l).phase) (failAll_board [] hl e)
  rw [Board.change_desk_self] at hd
  exact hd

theorem not_heedless_closing : ¬ Phase.closing.Heedless := by
  rintro ⟨⟩

/-- A driver that calls its loop finds it open. -/
theorem enterLoop_runs (hl : l < p.loops.size)
    (hx : p.host.memory.valueOf (p.loopOf l) = .loop x)
    (heedless : ((enterLoop l p).2.loop l).driver.phase.Heedless) : x.closed = false ∧
      (enterLoop l p).2.host.memory =
        p.host.memory.setValue (p.loopOf l) (.loop { x with running := true }) := by
  obtain ⟨-, -, -, he⟩ | ⟨opened, he⟩ := enterLoop_cases p l <;> rw [he] at heedless ⊢
  · exact absurd (failAll_phase hl _ ▸ heedless) not_heedless_closing
  · exact ⟨opened x (pythonLoop?_eq_some.mpr hx), changePythonLoop_memory hx _⟩

/-- An entry runs when it has been taken out of the queue. -/
theorem ran_evolves (hx : p.host.memory.valueOf (p.loopOf l) = .loop x) (entry : Scheduled)
    (rest : List Scheduled) :
    ((Eval.runReady Machine.top (p.loopOf l) entry).run
      (p.host.memory.setValue (p.loopOf l) (.loop { x with ready := rest }))).2.Evolves
        (p.ran l entry rest).2.host.memory := by
  rw [← changePythonLoop_memory hx fun x => { x with ready := rest }, Process.ran, ask_snd]
  exact Op.ask_reaches _ _ _ _

/-- An entry that ends the call of the loop makes the driver close its queue. -/
theorem failAll_not_heedless {q : Process} (hl : l < q.loops.size) (e : Error) (f : Loop → Loop) :
    ¬ ((failAll l e (q.changePythonLoop l f)).2.loop l).driver.phase.Heedless := by
  rw [failAll_phase (by rwa [Process.changePythonLoop_loops])]
  exact not_heedless_closing

/-- A driver that runs the next entry of the ready queue does nothing else to its loop. -/
theorem runNext_runs (hl : l < p.loops.size) (left : Nat)
    (heedless : ((runNext l left p).2.loop l).driver.phase.Heedless) :
    Memory.Runs (p.loopOf l) p.host.memory (runNext l left p).2.host.memory := by
  obtain ⟨-, he⟩ | ⟨y, entry, rest, here, ready, q, came⟩ := runNext_cases p l left
  · rw [he]
    exact .of_evolves (.refl _)
  · have value := pythonLoop?_eq_some.mp here
    have reaches := ran_evolves value entry rest
    have size := congrArg Array.size (ran_loops p l entry rest)
    obtain ⟨ran, he⟩ | ⟨e, ran, he⟩ := came <;> rw [ran] at reaches size <;>
      rw [he] at heedless ⊢
    · exact .entry value ready reaches
    · exact absurd heedless (failAll_not_heedless (size ▸ hl) e _)

/-- As long as a driver takes no request, it only runs its loop. -/
theorem step_runs (hx : p.host.memory.valueOf (p.loopOf l) = .loop x)
    (heedless : ((step l p).2.loop l).driver.phase.Heedless) :
    Memory.Runs (p.loopOf l) p.host.memory (step l p).2.host.memory := by
  cases hp : (p.loop l).driver.phase with
  | entering =>
    have hl : l < p.loops.size := Process.lt_size_of_phase (by simp [hp])
    rw [step_entering hp] at heedless ⊢
    obtain ⟨-, memory⟩ := enterLoop_runs hl hx heedless
    exact memory ▸ .called hx
  | iterating n =>
    have hl : l < p.loops.size := Process.lt_size_of_phase (by simp [hp])
    cases n with
    | zero =>
      rw [step_iterating_zero hp] at heedless ⊢
      obtain ⟨-, -, -, he⟩ | ⟨-, he⟩ := endIteration_cases p l <;> rw [he] at heedless ⊢
      · rw [System.setPhase_phase (by rwa [Process.changePythonLoop_loops])] at heedless
        cases heedless
      · exact .of_evolves (.refl _)
    | succ left =>
      rw [step_iterating_succ hp] at heedless ⊢
      exact runNext_runs hl left heedless
  | _ => exact .of_evolves (step_evolving (by simp [hp]) (by simp [hp])).memory

end Bridge

/-! ## What a driver has been told -/

/-- Whether a driver runs a loop that asyncio has made, and no other driver has it. -/
structure Process.OwnsLoop (p : Process) (l : LoopId) : Prop where
  genuine : p.host.memory.GenuineLoop (p.loopOf l)
  alone : ∀ k < p.loops.size, k ≠ l → p.loopOf k ≠ p.loopOf l

namespace System

variable {s : System} {l : LoopId} {a : Action}

/-- Whether a thread has put a request into the queue of a driver and is about to wake it. -/
def Waking (s : System) (l : LoopId) : Prop := ∃ t n, (t, .wake n) ∈ s.chores ∧
  n.Wakes s.process.host.memory (s.process.loopOf l)

/-- What a driver that does not look is told of what there is to look at. -/
structure Told (s : System) (l : LoopId) : Prop where
  requests : (s.board.desk l).phase.Heedless → (s.board.desk l).requests = [] ∨
    s.process.host.memory.Roused (s.process.loopOf l) ∨ s.Waking l
  tasks : ∀ x, (s.board.desk l).Passed x →
    s.process.host.memory.Noticed (s.process.loopOf l) (s.process.callbackOf l) x.task.ref
  running : (s.board.desk l).phase.InLoop → s.process.host.memory.Running (s.process.loopOf l)

/-! ## Steps -/

theorem size_le_step (s : System) (a : Action) :
    s.process.loops.size ≤ (s.step a).process.loops.size := by
  obtain ⟨q, outfit, loops, -⟩ := s.step_outfit a
  rw [loops]
  exact outfit.size

/-- A loop that a driver has for itself has been its own before. -/
theorem ownsLoop_before (hl : l < s.process.loops.size)
    (made : s.process.host.memory.Has (s.process.loopOf l))
    (h : (s.step a).process.OwnsLoop l) : s.process.OwnsLoop l := by
  obtain ⟨genuine, alone⟩ := h
  rw [(s.loop_step a hl).1] at genuine alone
  refine ⟨(step_retains s a).genuineLoop made genuine, fun k hk other => ?_⟩
  rw [← (s.loop_step a hk).1]
  exact alone k (Nat.lt_of_lt_of_le hk (s.size_le_step a)) other

/-- Chores are left to be done until they are taken up. -/
theorem chores_step (s : System) (a : Action) {c : ThreadId × Chore} (hc : c ∈ s.chores) :
    c ∈ (s.step a).chores ∨ ∃ n, a = .proceed n ∧ s.chores[n]? = some c := by
  cases a with
  | proceed n =>
    simp only [step]
    split
    · exact .inl hc
    · next t chore hn =>
      obtain ⟨i, hi⟩ := List.mem_iff_getElem?.mp hc
      by_cases same : i = n
      · exact .inr ⟨n, rfl, same ▸ hi⟩
      · exact .inl (List.mem_append_left _ (List.mem_eraseIdx_iff_getElem?.mpr ⟨i, same, hi⟩))
  | _ => exact .inl (List.mem_append_left _ hc)

/-- Who is about to wake a driver remains so or wakes it. -/
theorem Waking.step (h : s.Waking l) (hl : l < s.process.loops.size)
    (alive : s.process.host.lock.alive = true)
    (loop : s.process.host.memory.IsLoop (s.process.loopOf l)) (a : Action) : (s.step a).Waking l ∨
      (s.step a).process.host.memory.Roused ((s.step a).process.loopOf l) := by
  obtain ⟨t, n, hc, wakes⟩ := h
  have same := (s.loop_step a hl).1
  rcases s.chores_step a hc with hc | ⟨i, rfl, hi⟩
  · refine .inl ⟨t, n, hc, ?_⟩
    rw [same]
    exact wakes.retains (step_retains s a)
  · refine .inr ?_
    have woken : (s.step (.proceed i)).process = (wake t n s.process).2 := by
      simp only [System.step, hi]
      rfl
    rw [same, woken]
    exact wake_rouses wakes loop alive

/-- Whoever puts a request into the queue of a driver is about to wake it. -/
theorem Waking.of_push (sound : s.Sound) (live : s.process.Live l) (equips : s.process.Equips l)
    (genuine : s.process.host.memory.GenuineLoop (s.process.loopOf l)) {n : Nat} {r : Request}
    (pushed : s.deeds (.proceed n) = [.push l r]) : (s.step (.proceed n)).Waking l := by
  have hl := Process.lt_size_of_phase live
  obtain ⟨notifier, here⟩ := Option.isSome_iff_exists.mp (sound.opened l live)
  cases hn : s.chores[n]? with
  | none => simp [deeds, hn] at pushed
  | some tc =>
    obtain ⟨t, c⟩ := tc
    cases c with
    | enqueue k r' =>
      simp only [deeds, hn] at pushed
      split at pushed
      · obtain ⟨rfl, rfl⟩ : k = l ∧ r' = r := by simpa using pushed
        obtain ⟨w, q, push, wakes⟩ := push_wakes (t := t) (r := r') here
          (equips.notifier notifier here genuine) (sound.alive live)
        have stepped : s.step (.proceed n) = ⟨q, s.chores.eraseIdx n ++ [(t, .wake w)]⟩ := by
          simp only [System.step, hn, after, Chore.run]
          rw [run_bind, push]
          rfl
        refine ⟨t, w, ?_, ?_⟩
        · rw [stepped]
          exact List.mem_append_right _ (List.mem_singleton_self _)
        · rw [(s.loop_step (.proceed n) hl).1, stepped]
          exact wakes
      · cases pushed
    | _ => simp [deeds, hn] at pushed

/-- A driver gets into its loop by calling it. -/
theorem Act.inLoop {ds : List Deed} {b : Board} (h : s.Act (.drive l) ds b)
    (after : (b.desk l).phase.InLoop) :
    (s.board.desk l).phase = .entering ∨ (s.board.desk l).phase.InLoop := by
  cases h with
  | quiet _ _ _ other => exact absurd rfl (other l)
  | openLoop _ _ other => exact absurd rfl (other l)
  | wait _ phase => exact .inr after
  | go _ phase goes runs undone =>
    rw [Board.change_desk_self] at after
    cases goes with
    | enter h => exact .inl h
    | begin n h => exact .inr (h ▸ .looping)
    | next n h => exact .inr (h ▸ .iterating _)
    | again h => exact .inr (h ▸ .iterating _)
    | _ => cases after
  | conclude _ n x outcome phase here =>
    rw [Board.change_desk_self, Board.tell_desk, Board.giveUp_desk, phase] at after
    cases after
  | takeCancel _ id rest phase h =>
    rw [Board.cancelOne_phase, Board.change_desk_self] at after
    cases after
  | takeStop _ rest phase h =>
    rw [Board.stopAll_phase, Board.change_desk_self] at after
    cases after
  | disown _ c x phase abandoned =>
    rw [Board.cancelOne_phase, Board.change_desk_self] at after
    cases after
  | _ =>
    rw [Board.change_desk_self] at after
    cases after

/-- A driver that finds a task not to be done is right. -/
theorem pending_of_answer? (alive : s.process.host.lock.alive = true) {x : Tracked} {f : Future}
    (askable : x.Askable s.process.host.memory)
    (future : s.process.host.memory.GenuineFuture x.task.ref f)
    (undone : s.process.answer? l x = none) : f.outcome.isDone = false := by
  have conveys :=
    Tracked.conveys askable.live (t := Process.driverThread l) alive askable.answers future
  rw [← answer?_eq, undone] at conveys
  generalize f.outcome = o at conveys ⊢
  cases conveys
  rfl

/-- A move of the driver itself. -/
theorem Told.drive (sound : s.Sound) (live : s.process.Live l) (equips : s.process.Equips l)
    (askable : ∀ x ∈ (s.board.desk l).live, x.Askable s.process.host.memory)
    (owns : (s.step (.drive l)).process.OwnsLoop l) (told : s.Told l) :
    (s.step (.drive l)).Told l := by
  have act := act sound (.drive l)
  have alive := sound.alive live
  obtain ⟨loop, callback, -⟩ := s.loop_step (.drive l) (Process.lt_size_of_phase live)
  have genuine := owns.genuine
  rw [loop] at genuine
  obtain ⟨x, hx⟩ := ((step_retains s (.drive l)).genuineLoop equips.made genuine).loop
  have runs (heedless : ((s.step (.drive l)).board.desk l).phase.Heedless) :
      Memory.Runs (s.process.loopOf l) s.process.host.memory
        (s.step (.drive l)).process.host.memory := step_runs hx heedless
  constructor
  · intro heedless
    rw [loop]
    obtain ⟨none | ⟨before, same⟩, -⟩ := act.heedless heedless
    · exact .inl none
    · rw [same]
      refine (told.requests before).imp id (Or.imp (fun roused => ?_) fun waking => ?_)
      · exact (runs heedless).roused equips.made genuine roused
      · obtain ⟨t, n, hc, wakes⟩ := waking
        refine ⟨t, n, List.mem_append_left _ hc, ?_⟩
        rw [loop]
        exact wakes.retains (step_retains s _)
  · intro y passed
    rw [loop, callback]
    obtain ⟨here, before⟩ := (act.heedless passed.heedless).2 y passed
    have tracked : y ∈ (s.board.desk l).live := List.mem_append_left _ here
    refine (runs passed.heedless).noticed (equips.watched y tracked) equips.callback equips.made
      genuine ?_
    rcases before with before | undone
    · exact told.tasks y before
    · intro f attached done
      have pending := pending_of_answer? alive (askable y tracked) attached.future undone
      cases done.symm.trans pending
  · intro inLoop
    rw [loop]
    rcases act.inLoop inLoop with entering | before
    · have called : (s.step (.drive l)).process = (enterLoop l s.process).2 := by
        rw [step_drive, step_entering entering]
      have heedless := inLoop.heedless
      change ((s.step (.drive l)).process.loop l).driver.phase.Heedless at heedless
      rw [called] at heedless ⊢
      obtain ⟨opened, memory⟩ := enterLoop_runs (Process.lt_size_of_phase live) hx heedless
      rw [memory]
      exact ⟨_, Memory.valueOf_setLoop hx _, rfl, opened⟩
    · exact (runs inLoop.heedless).running (told.running before)

/-- What is done to the loop of a driver meanwhile. -/
theorem evolvesFor_of_owns (owns : s.process.OwnsLoop l) (other : a ≠ .drive l) :
    Memory.EvolvesFor (s.process.loopOf l) s.process.host.memory
      (s.step a).process.host.memory := by
  by_cases drives : ∃ k, a = .drive k
  · obtain ⟨k, rfl⟩ := drives
    by_cases hk : k < s.process.loops.size
    · exact .of_moves (owns.alone k hk fun h => other (h ▸ rfl)) (Bridge.step_moves s.process k)
    · have exited : (s.process.loop k).driver.phase = .exited := by
        rw [Process.loop_of_size_le (Nat.le_of_not_lt hk)]
        rfl
      rw [step_drive]
      simp only [Bridge.step, run_get_bind, exited]
      exact .of_evolves (.refl _)
  · exact .of_evolves (step_evolves s fun k hk => drives ⟨k, hk⟩)

/-- Anything but a move of the driver itself. -/
theorem Told.elsewhere (sound : s.Sound) (live : s.process.Live l) (equips : s.process.Equips l)
    (before : s.process.OwnsLoop l) (owns : (s.step a).process.OwnsLoop l) (other : a ≠ .drive l)
    (told : s.Told l) : (s.step a).Told l := by
  have hl := Process.lt_size_of_phase live
  have evolves := evolvesFor_of_owns before other
  obtain ⟨loop, callback, -⟩ := s.loop_step a hl
  have genuine := owns.genuine
  rw [loop] at genuine
  rcases (act sound a).elsewhere other with ⟨phase, tasks, requests⟩ | ⟨-, -, new⟩
  · constructor
    · intro heedless
      rw [phase] at heedless
      rcases requests with same | ⟨n, r, rfl, pushed, -⟩
      · rw [same]
        rcases told.requests heedless with none | roused | waking
        · exact .inl none
        · rw [loop]
          exact .inr (.inl (roused.evolves evolves before.genuine.loop))
        · exact .inr (waking.step hl (sound.alive live) before.genuine.loop a).symm
      · exact .inr (.inr (.of_push sound live equips before.genuine pushed))
    · intro x passed
      rw [loop, callback]
      have passed' : (s.board.desk l).Passed x := passed.congr phase tasks
      exact (told.tasks x passed').evolves
        (equips.watched x (List.mem_append_left _ passed'.mem)) evolves equips.made genuine
    · intro inLoop
      rw [phase] at inLoop
      rw [loop]
      exact (Memory.Runs.spared evolves).running (told.running inLoop)
  · exact absurd hl (new ▸ Nat.lt_irrefl _)

/-- A driver that has just been started has nothing to look at. -/
theorem Told.anew (fresh : s.board.desk l = Desk.fresh ∨ ¬ s.process.Live l) : s.Told l := by
  rcases fresh with fresh | left
  · refine ⟨fun _ => .inl (by rw [fresh]; rfl), fun x hx => ?_, fun inLoop => ?_⟩
    · have here := hx.mem
      rw [fresh] at here
      cases here
    · rw [fresh] at inLoop
      cases inLoop
  · have exited : (s.board.desk l).phase = .exited := Decidable.not_not.mp left
    refine ⟨fun heedless => ?_, fun x hx => ?_, fun inLoop => ?_⟩
    · rw [exited] at heedless
      cases heedless
    · have heedless := hx.heedless
      rw [exited] at heedless
      cases heedless
    · rw [exited] at inLoop
      cases inLoop

theorem Told.step (sound : s.Sound) (equipped : s.Equipped)
    (askable : ∀ x ∈ (s.board.desk l).live, x.Askable s.process.host.memory)
    (told : s.process.OwnsLoop l → s.Told l) (a : Action)
    (owns : (s.step a).process.OwnsLoop l) : (s.step a).Told l := by
  by_cases live : s.process.Live l
  · have equips := equipped.drivers l live
    have before := ownsLoop_before (Process.lt_size_of_phase live) equips.made owns
    by_cases moves : a = .drive l
    · subst moves
      exact (told before).drive sound live equips askable owns
    · exact (told before).elsewhere sound live equips before owns moves
  · refine .anew ?_
    by_cases after : (s.step a).process.Live l
    · obtain ⟨opens, -⟩ := starts_anew sound a live after
      have other : a ≠ .drive l := by
        rintro rfl
        exact opens
      rcases (act sound a).elsewhere other with ⟨phase, -⟩ | ⟨fresh, -⟩
      · exact absurd (fun exited => after (phase.trans exited)) live
      · exact .inl fresh
    · exact .inr after

end System

end EmbeddedPython
