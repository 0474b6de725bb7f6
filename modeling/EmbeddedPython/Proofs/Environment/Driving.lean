import EmbeddedPython.Proofs.Environment.Act

/-
  What a move of a driver comes to on the board

  Each move of a driver is one of the acts: first what the activities that it is
  made of do to the board, then the moves, one for each phase.
-/

namespace EmbeddedPython

open Activity Bridge

/-! ## The moves of a driver, on the board -/

namespace Bridge

open Process

section

variable {p : Process} {l : LoopId} (w : List (LoopId × Request))

theorem setPhase_board (hl : l < p.loops.size) (phase : Bridge.Phase) :
    (setPhase l phase p).2.board w = (p.board w).change l fun d => { d with phase := phase } :=
  changeLoop_board p w hl fun _ => rfl

theorem changePythonLoop_board (p : Process) (l : LoopId) (f : Loop → Loop) :
    (p.changePythonLoop l f).board w = p.board w :=
  modifyPythonLoop_quiet l f p w

/-- An entry that is run does nothing to the board. -/
theorem ran_board (p : Process) (l : LoopId) (entry : Scheduled) (rest : List Scheduled) :
    (p.ran l entry rest).2.board w = p.board w := by
  rw [ran, ask_quiet, changePythonLoop_board]

theorem finishAll_board (e : Error) (xs : List Tracked) (h : (p.loop l).driver.tasks = xs) :
    let q := (xs.forM (fun x => do
      giveUp x.registration
      modify fun p : Process => p.finish l 0 (.error e)) p).2
    q.board w = ((p.board w).fail xs e).change l (fun d => { d with tasks := [] }) ∧
      q.loops.size = p.loops.size := by
  induction xs generalizing p with
  | nil =>
    refine ⟨?_, rfl⟩
    exact (Board.change_eq_self (by simp [Process.board, EventLoop.desk, h])).symm
  | cons x xs ih =>
    have hq := giveUp_idle x.registration p
    have hx : ((giveUp x.registration p).2.loop l).driver.tasks[0]? = some x := by
      rw [hq.loop, h]
      rfl
    have hl : ((giveUp x.registration p).2.finish l 0 (.error e)).loops.size = p.loops.size := by
      simp [Process.finish, hx, Process.settle, Process.log, Process.changeLoop,
        Process.changePromise, hq.loops]
    have ht : (((giveUp x.registration p).2.finish l 0 (.error e)).loop l).driver.tasks = xs := by
      rw [Process.loop_finish (List.getElem?_eq_some_iff.mp hx).1, hq.loop, h]
      rfl
    obtain ⟨hb, hs⟩ := ih ht
    refine ⟨hb.trans ?_, hs.trans hl⟩
    rw [finish_board w hx, giveUp_board, Board.change_fail, Board.change_change]
    rfl

theorem failAll_board (hl : l < p.loops.size) (e : Error) : (failAll l e p).2.board w =
    ((p.board w).fail (p.loop l).driver.tasks e).change l fun d =>
      { d with tasks := [], phase := .closing } := by
  have hn : (note (.error "event loop failed") p).2.loop l = p.loop l := rfl
  rw [failAll, run_bind, run_get_bind, run_bind, run_bind, hn]
  obtain ⟨hb, hs⟩ := finishAll_board (p := (note (.error "event loop failed") p).2) (l := l) w e
    (p.loop l).driver.tasks rfl
  refine ((Quiet.forM fun x : Tracked => tell_quiet _ x.drop) _ w).trans ?_
  rw [setPhase_board w (hs ▸ hl) .closing, hb, Board.change_change, note_quiet]

theorem push_board (t : ThreadId) (l : LoopId) (r : Request) (p : Process) :
    (push t l r p).2.board w = if p.takes t l then
      (p.board w).change l fun d => { d with requests := d.requests ++ [r] } else p.board w := by
  cases hn : (p.loop l).notifier with
  | none => simp [push, Process.takes, hn]
  | some n =>
    cases hc : canLock p t with
    | false => simp [push, Process.takes, hn, hc]
    | true =>
      have hl : l < p.loops.size := lt_size_of_notifier (by simp [hn])
      simp only [push, run_get_bind, hn, hc, Process.takes, Option.isSome_some, Bool.and_self,
        if_true]
      rw [run_bind]
      generalize hb : ask t (do
        let callSoon ← n.callSoon.clone
        pure (Notifier.mk callSoon (← n.stop.clone))) p = b
      have hq : p.Idles b.2 := hb ▸ ask_idle t _ p
      have pb : b.2.board w = p.board w := hb ▸ ask_quiet t _ p w
      have queued : (b.2.queue l r).board w =
          (p.board w).change l fun d => { d with requests := d.requests ++ [r] } := by
        rw [queue_board w (hq.loops ▸ hl), pb]
      obtain ⟨_ | _, b⟩ := b
      · exact (note_quiet _ _ w).trans queued
      · exact queued

theorem requestCancel_board (t : ThreadId) (c : CancelCall) (p : Process) :
    (requestCancel t c p).2.board w = if p.takes t c.loop then
      (p.board w).change c.loop fun d => { d with requests := d.requests ++ [.cancel c.task] }
    else p.board w := by
  have hp := push_board w t c.loop (.cancel c.task) p
  rw [← hp]
  simp only [requestCancel, enqueue, run_bind]
  generalize push t c.loop (.cancel c.task) p = b
  obtain ⟨_ | _ | n, b⟩ := b
  · rfl
  · rfl
  · exact wake_quiet t n b w

section

variable (t : ThreadId) (c : CancelCall) (p : Process) {token : Cancellation.Token}

theorem registerCancel_of_none (h : token.signal = none) :
    registerCancel t token c p = (.nothing, p) := by
  simp only [registerCancel, h, run_pure]

variable {i : Nat} (h : token.signal = some i)
include h

theorem registerCancel_of_unraised
    (unraised : (p.signals.getD i Cancellation.Signal.fresh).raised = false) :
    registerCancel t token c p = (⟨some i, (p.signals.getD i Cancellation.Signal.fresh).nextId⟩,
      { p with
        signals := p.signals.setIfInBounds i
          ((p.signals.getD i Cancellation.Signal.fresh).register c []).2 }) := by
  simp only [registerCancel, h, run_get_bind, Cancellation.Signal.register_of_unraised _ _ unraised]
  rfl

theorem registerCancel_of_raised
    (raised : (p.signals.getD i Cancellation.Signal.fresh).raised = true) :
    registerCancel t token c p = (.nothing, (requestCancel t c { p with
      signals := p.signals.setIfInBounds i
        ((p.signals.getD i Cancellation.Signal.fresh).register c []).2 }).2) := by
  simp only [registerCancel, h, run_get_bind, Cancellation.Signal.register_of_raised _ _ raised]
  rfl

end

theorem cancelTask_board (t : ThreadId) (x : Tracked) (p : Process) :
    (cancelTask t x p).2.board w = (p.board w).giveUp x.registration := by
  rw [cancelTask, run_bind, ← giveUp_board]
  refine Quiet.bind (ask_quiet t _) (fun r => ?_) _ w
  cases r with
  | ok _ => exact .pure ()
  | error _ => exact note_quiet _

theorem cancelTasks_board (t : ThreadId) (xs : List Tracked) (p : Process) :
    (xs.forM (cancelTask t) p).2.board w = (p.board w).giveUpAll xs := by
  induction xs generalizing p with
  | nil => rfl
  | cons x xs ih =>
    rw [run_forM_cons, ih, cancelTask_board]
    rfl

theorem cancelOne_board (l : LoopId) (id : TaskId) (p : Process) :
    (cancelOne l id p).2.board w = (p.board w).cancelOne l id := by
  have here : (((p.board w).desk l).tasks.find? (·.id == id)) =
    (p.loop l).driver.tasks.find? (·.id == id) := rfl
  rw [Board.cancelOne, here]
  cases hx : (p.loop l).driver.tasks.find? (·.id == id) with
  | none => simp only [cancelOne, run_get_bind, hx, run_pure]
  | some x =>
    have hl : l < p.loops.size := lt_size_of_tasks fun hn => by simp [hn] at hx
    have kept : l < (cancelTask (driverThread l) x p).2.loops.size := by
      rw [(cancelTask_idle _ x p).loops]
      exact hl
    simp only [cancelOne, run_get_bind, hx]
    rw [run_bind, ← cancelTask_board w (driverThread l) x p]
    exact changeLoop_board (cancelTask (driverThread l) x p).2 w kept fun _ => rfl

theorem stopAll_board (hl : l < p.loops.size) :
    (stopAll l p).2.board w = (p.board w).stopAll l := by
  show (stopAll l p).2.board w = if (p.loop l).driver.stopping then p.board w
    else ((p.board w).giveUpAll (p.loop l).driver.tasks).change l fun d =>
      { d with stopping := true, tasks := d.tasks.map Tracked.withdrawn }
  cases hs : (p.loop l).driver.stopping with
  | true => simp [stopAll, hs]
  | false =>
    simp only [stopAll, run_get_bind, hs, Bool.not_false, if_true, Bool.false_eq_true, if_false]
    generalize hq : (modifyDriver l (fun d => { d with stopping := true }) p).2 = q
    have hb : q.board w = (p.board w).change l fun d => { d with stopping := true } :=
      hq ▸ changeLoop_board p w hl fun _ => rfl
    have hs : q.loops.size = p.loops.size := by
      rw [← hq]
      simp [modifyDriver, modifyLoop, Process.changeLoop]
    rw [run_bind, hq, run_bind]
    have same : ((p.loop l).driver.tasks.forM (cancelTask (driverThread l)) q).2.loops = q.loops :=
      (Idle.forM (fun x => cancelTask_idle (driverThread l) x) q).loops
    refine (changeLoop_board _ w (by rw [same, hs]; exact hl)
      (g := fun d => { d with tasks := d.tasks.map Tracked.withdrawn }) fun _ => rfl).trans ?_
    rw [cancelTasks_board, hb, Board.change_giveUpAll, Board.change_change]

theorem clearNext_board (t : ThreadId) (e : Error) {r : Request} {rest : List Request}
    (h : (p.loop l).requests = r :: rest) : (clearNext t l e p).2.board w =
      ((p.board w).answer r e).change l fun d => { d with requests := rest } := by
  simp only [clearNext, run_get_bind, h, run_modify_bind]
  rw [tell_quiet, clear_board w h]

theorem clearAll_board (t : ThreadId) (rs : List Request) (h : (p.loop l).requests = rs) :
    (rs.forM (fun _ => clearNext t l .eventLoopClosed) p).2.board w =
      ((p.board w).hand rs).change l fun d => { d with requests := [] } := by
  induction rs generalizing p with
  | nil => exact (Board.change_eq_self (by simp [Process.board, EventLoop.desk, h])).symm
  | cons r rs ih =>
    have hl := (clearNext_turns t l .eventLoopClosed p).2
    rw [run_forM_cons, ih (by rw [hl, h]; rfl), clearNext_board w t _ h, Board.change_hand,
      Board.change_change]
    rfl

theorem close_board (t : ThreadId) (hl : l < p.loops.size) :
    (close t l .eventLoopClosed p).2.board w = ((p.board w).hand (p.loop l).requests).change l
      fun d => { d with requests := [], isOpen := false } := by
  let q := p.changeLoop l fun x => { x with notifier := none }
  have hq : q.board w = (p.board w).change l fun d => { d with isOpen := false } :=
    changeLoop_board p w hl fun _ => rfl
  have hr : (q.loop l).requests = (p.loop l).requests := by
    rw [loop_changeLoop_self hl]
  have clear (q' : Process) (h : q.Idles q') (hb : q'.board w = q.board w) :
      ((p.loop l).requests.forM (fun _ => clearNext t l .eventLoopClosed) q').2.board w =
        ((p.board w).hand (p.loop l).requests).change l
          fun d => { d with requests := [], isOpen := false } := by
    rw [clearAll_board w t _ (by rw [h.loop, hr]), hb, hq, Board.change_hand, Board.change_change]
  cases hn : (p.loop l).notifier with
  | none =>
    have he : (close t l .eventLoopClosed p).2 =
        ((p.loop l).requests.forM (fun _ => clearNext t l .eventLoopClosed) q).2 := by
      simp [close, hn, q, modifyLoop]
    rw [he]
    exact clear q (.refl q) rfl
  | some n =>
    let q' := (tell t n.stop.drop (tell t n.callSoon.drop q).2).2
    have he : (close t l .eventLoopClosed p).2 =
        ((p.loop l).requests.forM (fun _ => clearNext t l .eventLoopClosed) q').2 := by
      simp only [close, run_get_bind, hn]
      rfl
    rw [he]
    refine clear q' ((tell_idle t n.callSoon.drop q).trans (tell_idle t n.stop.drop _)) ?_
    exact (tell_quiet t _ _ w).trans (tell_quiet t _ _ w)

theorem settleTask_board {n : Nat} {x : Tracked} (here : (p.loop l).driver.tasks[n]? = some x)
    (o : Outcome) : (settleTask l n x o p).2.board w =
      (((p.board w).giveUp x.registration).tell x.promise (.settled
        (keepOutcome (driverThread l) x.promise o (giveUp x.registration p).2).1)).change l
          fun d => { d with tasks := d.tasks.eraseIdx n } := by
  have given := giveUp_idle x.registration p
  have kept := keepOutcome_idle (driverThread l) x.promise o (giveUp x.registration p).2
  rw [settleTask, run_bind, run_bind, run_modify_bind, tell_quiet,
    finish_board w (by rw [kept.loop, given.loop, here]), keepOutcome_quiet, giveUp_board]

theorem leave_board (h : (p.loop l).driver.phase = .closing) : (leave l p).2.board w =
    ((p.board w).hand (p.loop l).requests).change l fun d =>
      { d with requests := [], isOpen := false, phase := .exited } := by
  have hl : l < p.loops.size := lt_size_of_phase (by rw [h]; exact nofun)
  rw [leave, run_bind, run_get_bind, run_bind, run_modify, exit_board, tell_quiet,
    close_board w (driverThread l) hl, Board.change_change]
  refine lt_size_of_phase ?_
  rw [(tell_idle _ _ _).loop, (close_turns _ l _ (.inl h)).2, h]
  exact nofun

end

end Bridge

namespace System

section

variable {s : System} {l : LoopId}

/-- A move of a driver is read off what it makes of the board. -/
theorem Act.of_drive {ds : List Deed} {b : Board}
    (hb : (Bridge.step l s.process).2.board (pushes s.chores) = b)
    (hd : s.process.deeds l = ds) (h : s.Act (.drive l) ds b) :
    s.Act (.drive l) (s.deeds (.drive l)) (s.step (.drive l)).board := by
  have hs : (s.step (.drive l)).board = b := by
    rw [← hb]
    show ((Bridge.step l s.process).2).board (pushes (s.chores ++ [])) = _
    rw [List.append_nil]
  rw [hs, deeds, hd]
  exact h

theorem phase_of_board {p : Process} {w : List (LoopId × Request)} {b : Board}
    (h : p.board w = b) : (p.loop l).driver.phase = (b.desk l).phase :=
  congrArg (fun b => (b.desk l).phase) h

theorem lt_size_of_desk {phase : Bridge.Phase} (h : (s.board.desk l).phase = phase)
    (live : phase ≠ .exited) : l < s.process.loops.size :=
  Process.lt_size_of_phase fun hx => live (h.symm.trans hx)

/-- A driver that only goes on to another phase. -/
theorem Act.of_go {old phase : Bridge.Phase} (h : (s.board.desk l).phase = old)
    (live : old ≠ .exited) {p : Process} (hp : p.board (pushes s.chores) = s.board)
    (size : p.loops.size = s.process.loops.size)
    (hm : (Bridge.step l s.process).2 = (setPhase l phase p).2)
    (hd : ((Bridge.step l s.process).2.loop l).driver.phase = phase → s.process.deeds l = [])
    (goes : (s.board.desk l).Goes phase) (runs : ∀ e, ¬ s.process.RunFails l e)
    (undone : s.process.Undone l) :
    s.Act (.drive l) (s.deeds (.drive l)) (s.step (.drive l)).board := by
  have hl := lt_size_of_desk h live
  have hb : (Bridge.step l s.process).2.board (pushes s.chores) =
      s.board.change l fun d => { d with phase := phase } := by
    rw [hm, setPhase_board _ (size ▸ hl), hp]
  have hn := phase_of_board (l := l) hb
  rw [Board.change_desk_self] at hn
  exact .of_drive hb (hd hn) (.go l phase goes runs undone)

/-- A driver whose call of the loop of the interpreter fails. -/
theorem Act.of_fail {p : Process} {e : Error} (hp : p.board (pushes s.chores) = s.board)
    (size : p.loops.size = s.process.loops.size)
    (hm : (Bridge.step l s.process).2 = (failAll l e p).2) (h : s.process.RunFails l e) :
    s.Act (.drive l) (s.deeds (.drive l)) (s.step (.drive l)).board := by
  have hl : l < s.process.loops.size := by
    rcases h.phase with hp | ⟨left, hp⟩ <;> exact Process.lt_size_of_phase (by simp [hp])
  have ht : (p.loop l).driver.tasks = (s.board.desk l).tasks :=
    congrArg (fun b : Board => (b.desk l).tasks) hp
  have hb : (Bridge.step l s.process).2.board (pushes s.chores) =
      (s.board.fail (s.board.desk l).tasks e).change l fun d =>
        { d with tasks := [], phase := .closing } := by
    rw [hm, failAll_board _ (size ▸ hl), hp, ht]
  have hn := phase_of_board (l := l) hb
  rw [Board.change_desk_self] at hn
  refine .of_drive hb ?_ (.fail l e h)
  rcases h.phase with hp | ⟨left, hp⟩ <;> simp only [Process.deeds, hp, hn, if_true] <;> rfl

theorem enter_act (h : (s.board.desk l).phase = .entering) :
    s.Act (.drive l) (s.deeds (.drive l)) (s.step (.drive l)).board := by
  have hp : (s.process.loop l).driver.phase = .entering := h
  obtain ⟨x, here, closed, he⟩ | ⟨opened, he⟩ := enterLoop_cases s.process l <;>
    have hm := (step_entering hp).trans (congrArg Prod.snd he)
  · exact .of_fail rfl rfl hm (.closed hp here closed)
  · refine .of_go h nofun (changePythonLoop_board _ _ l _) (by simp) hm (fun hn => ?_) (.enter h)
      (fun e hf => ?_) (Process.undone_of_phase hp nofun)
    · simp [Process.deeds, hp, hn]
    · cases hf with
      | closed _ here closed => exact Bool.noConfusion ((opened _ here).symm.trans closed)
      | raised phase => exact nomatch hp.symm.trans phase

theorem loop_act (h : (s.board.desk l).phase = .looping) :
    s.Act (.drive l) (s.deeds (.drive l)) (s.step (.drive l)).board := by
  have hp : (s.process.loop l).driver.phase = .looping := h
  have hd : s.process.deeds l = [] := by simp only [Process.deeds, hp]
  have hm : (Bridge.step l s.process).2 = (beginIteration l s.process).2 := step_looping hp
  have waits (hw : (beginIteration l s.process).2 = s.process) :
      s.Act (.drive l) (s.deeds (.drive l)) (s.step (.drive l)).board :=
    .of_drive (by rw [hm, hw]; rfl) hd (.wait l (.inl h))
  rcases hx : s.process.pythonLoop? l with _ | x
  · exact waits (by simp only [beginIteration, run_get_bind, hx, run_pure])
  · by_cases hr : (x.stopping || !x.ready.isEmpty) = true
    · refine .of_go h (by rintro ⟨⟩) rfl rfl (hm.trans ?_) (fun _ => hd) (.begin x.ready.length h)
        (Process.not_runFails_of_phase hp (by rintro ⟨⟩) (by rintro _ ⟨⟩))
        (Process.undone_of_phase hp (by rintro _ ⟨⟩))
      simp only [beginIteration, run_get_bind, hx, if_pos hr]
      rfl
    · exact waits (by simp only [beginIteration, run_get_bind, hx, if_neg hr, run_pure])

theorem return_act (h : (s.board.desk l).phase = .iterating 0) :
    s.Act (.drive l) (s.deeds (.drive l)) (s.step (.drive l)).board := by
  have hp : (s.process.loop l).driver.phase = .iterating 0 := h
  have runs := Process.not_runFails_of_phase hp nofun nofun
  have undone := Process.undone_of_phase hp nofun
  obtain ⟨x, -, -, he⟩ | ⟨-, he⟩ := endIteration_cases s.process l <;>
    have hm := (step_iterating_zero hp).trans (congrArg Prod.snd he)
  · refine .of_go h nofun (changePythonLoop_board _ _ l _) (by simp) hm (fun hn => ?_) (.return h)
      runs undone
    simp [Process.deeds, hp, hn]
  · refine .of_go h nofun rfl rfl hm (fun hn => ?_) (.again h) runs undone
    simp [Process.deeds, hp, hn]

theorem iterate_act {left : Nat} (h : (s.board.desk l).phase = .iterating (left + 1)) :
    s.Act (.drive l) (s.deeds (.drive l)) (s.step (.drive l)).board := by
  have hp : (s.process.loop l).driver.phase = .iterating (left + 1) := h
  have undone := Process.undone_of_phase hp nofun
  have none {n : Nat} (hn : ((Bridge.step l s.process).2.loop l).driver.phase = .iterating n) :
      s.process.deeds l = [] := by
    simp [Process.deeds, hp, hn]
  obtain ⟨idle, he⟩ | ⟨x, entry, rest, here, ready, q, came⟩ := runNext_cases s.process l left
  · refine .of_go h nofun rfl rfl ((step_iterating_succ hp).trans (congrArg Prod.snd he)) none
      (.next 0 h) (fun e hf => ?_) undone
    obtain ⟨y, entry, rest, here, ready, -⟩ := hf.raises hp
    exact nomatch ready.symm.trans (idle y here)
  · have quiet := ran_board (pushes s.chores) s.process l entry rest
    have size := congrArg Array.size (ran_loops s.process l entry rest)
    obtain ⟨ran, he⟩ | ⟨e, ran, he⟩ := came <;> rw [ran] at quiet size <;>
      have hm := (step_iterating_succ hp).trans (congrArg Prod.snd he)
    · refine .of_go h nofun quiet size hm none (.next left h) (fun e hf => ?_) undone
      have raised := (hf.raises hp).ran here ready
      rw [ran] at raised
      cases raised
    · exact .of_fail ((changePythonLoop_board _ _ l _).trans quiet) (by simpa using size) hm
        (.raised hp ⟨x, entry, rest, here, ready, congrArg Prod.fst ran⟩)

theorem drain_act (h : (s.board.desk l).phase = .draining) :
    s.Act (.drive l) (s.deeds (.drive l)) (s.step (.drive l)).board := by
  have hl := lt_size_of_desk h nofun
  have hp : (s.process.loop l).driver.phase = .draining := h
  have hm : (Bridge.step l s.process).2 = (drainOne l s.process).2 := step_draining hp
  cases hr : (s.process.loop l).requests with
  | nil =>
    refine .of_go h nofun rfl rfl (hm.trans ?_) (fun _ => ?_) (.drained h hr)
      (Process.not_runFails_of_phase hp nofun nofun) (Process.undone_of_phase hp nofun)
    · simp only [drainOne, run_get_bind, hr]
    · simp only [Process.deeds, hp, hr]
  | cons r rest =>
    have drained := Process.drain_board (pushes s.chores) hr
    have size : (s.process.drain l).loops.size = s.process.loops.size := by
      simp only [Process.drain, hr, Process.record]
      split <;> simp [Process.changeLoop, Process.log]
    simp only [drainOne, run_get_bind, hr, run_modify_bind] at hm
    cases r with
    | schedule coroutine token i =>
      refine .of_drive (hm ▸ drained) ?_ (.takeSchedule l coroutine token i rest h hr)
      simp only [Process.deeds, hp, hr]
      rfl
    | cancel id =>
      refine .of_drive ?_ ?_ (.takeCancel l id rest h hr)
      · rw [hm]
        dsimp only
        rw [cancelOne_board, drained]
        rfl
      · simp only [Process.deeds, hp, hr, Driver.asked, List.map_map]
        rfl
    | stop =>
      refine .of_drive ?_ ?_ (.takeStop l rest h hr)
      · rw [hm]
        dsimp only
        rw [stopAll_board _ (size ▸ hl), drained]
        rfl
      · simp only [Process.deeds, hp, hr, Driver.asked, apply_ite (List.map (Deed.ask l)),
          List.map_nil, List.map_map]
        rfl

theorem reject_deed {p : Process} {i : PromiseId} {coroutine : Handle} {token : Cancellation.Token}
    (h : (p.loop l).driver.phase = .starting coroutine token i)
    (hn : ((Bridge.step l p).2.loop l).driver.phase = .draining) :
    p.deeds l = [.reject l i ((p.loop l).driver.refusal (token.isRequested p.signals))] := by
  simp only [Process.deeds, h, hn]

theorem refuse_board {p : Process} (w : List (LoopId × Request)) (hl : l < p.loops.size)
    (coroutine : Handle) (i : PromiseId) (e : Error) : (refuse l coroutine i e p).2.board w =
      ((p.board w).tell i (.settled (.error e))).change l fun d => { d with phase := .draining } := by
  rw [refuse, run_modify_bind, tell_quiet, Process.reject_board w hl]

theorem start_act {coroutine : Handle} {token : Cancellation.Token} {i : PromiseId}
    (h : (s.board.desk l).phase = .starting coroutine token i) :
    s.Act (.drive l) (s.deeds (.drive l)) (s.step (.drive l)).board := by
  have hl := lt_size_of_desk h nofun
  have hp : (s.process.loop l).driver.phase = .starting coroutine token i := h
  obtain ⟨hc, he⟩ | ⟨hc, q, came⟩ := startNext_cases s.process l coroutine token i
  · have hb : (Bridge.step l s.process).2.board (pushes s.chores) =
        (s.board.tell i (.settled (.error .canceled))).change l fun d =>
          { d with phase := .draining } := by
      rw [step_starting hp, he]
      exact refuse_board _ hl coroutine i .canceled
    have hn := phase_of_board (l := l) hb
    rw [Board.change_desk_self] at hn
    refine .of_drive hb (reject_deed hp hn) (.reject l coroutine token i _ h ?_)
    cases hs : (s.process.loop l).driver.stopping with
    | true => exact .inl ⟨by simp [Driver.refusal, hs], hs⟩
    | false =>
      rw [hs, Bool.false_or] at hc
      exact .inr ⟨by simp [Driver.refusal, hc, hs], hs, hc⟩
  · obtain ⟨running, unrequested⟩ := Bool.or_eq_false_iff.mp hc
    have setUp : s.process.setUp l coroutine = (ask (Process.driverThread l)
        (startTask (s.process.loop l).driver.bindings coroutine)
        { s.process with nextTask := s.process.nextTask + 1 }).1 := by
      simp only [Process.setUp, ask_fst]
    have quiet := ask_quiet (Process.driverThread l)
      (startTask (s.process.loop l).driver.bindings coroutine)
      { s.process with nextTask := s.process.nextTask + 1 } (pushes s.chores)
    have size := congrArg Array.size (ask_idle (Process.driverThread l)
      (startTask (s.process.loop l).driver.bindings coroutine)
      { s.process with nextTask := s.process.nextTask + 1 }).loops
    obtain ⟨e, asked, he⟩ | ⟨task, done, asked, he⟩ := came <;> rw [asked] at setUp quiet size
    · have hb : (Bridge.step l s.process).2.board (pushes s.chores) =
          ({ s.board with nextTask := s.board.nextTask + 1 }.tell i (.settled (.error e))).change l
            fun d => { d with phase := .draining } := by
        rw [step_starting hp, he, refuse_board _ (size ▸ hl), quiet]
        rfl
      have hn := phase_of_board (l := l) hb
      rw [Board.change_desk_self] at hn
      refine .of_drive hb ?_ (.unprepared l coroutine token i e h running unrequested setUp)
      rw [reject_deed hp hn]
      simp [Driver.refusal, running, unrequested]
    · have hb : (Bridge.step l s.process).2.board (pushes s.chores) =
          { s.board with nextTask := s.board.nextTask + 1 }.change l fun d => { d with
            phase := .registering coroutine token
              ⟨s.board.nextTask, task, done, i, .nothing⟩ } := by
        rw [step_starting hp, he, setPhase_board _ (size ▸ hl), quiet]
        rfl
      have hn := phase_of_board (l := l) hb
      rw [Board.change_desk_self] at hn
      refine .of_drive hb ?_ (.start l coroutine token i task done h running unrequested setUp)
      simp only [Process.deeds, hp, hn]

theorem register_act (sound : s.Sound) {coroutine : Handle} {token : Cancellation.Token}
    {x : Tracked} (h : (s.board.desk l).phase = .registering coroutine token x) :
    s.Act (.drive l) (s.deeds (.drive l)) (s.step (.drive l)).board := by
  have hl := lt_size_of_desk h nofun
  have hp : (s.process.loop l).driver.phase = .registering coroutine token x := h
  have isOpen : (s.board.desk l).isOpen = true := sound.opened l (by rw [h]; exact nofun)
  have takes : s.process.takes (Process.driverThread l) l = true := by rw [sound.takes_eq, isOpen]
  have hm : (Bridge.step l s.process).2 = (registerNext l coroutine token x s.process).2 := step_registering hp
  rw [registerNext, run_bind] at hm
  cases ht : token.signal with
  | none =>
    have requested : token.isRequested s.process.signals = false := by
      simp only [Cancellation.Token.isRequested, ht]
    refine .of_drive ?_ ?_ (.skip l coroutine token x h ht)
    · rw [hm, registerCancel_of_none _ _ _ ht]
      exact setPhase_board _ hl _
    · simp only [Process.deeds, hp, requested, Bool.false_and]
      rfl
  | some i =>
    have requested : token.isRequested s.process.signals = (s.board.signal i).raised := by
      simp only [Cancellation.Token.isRequested, ht]
      rfl
    let q : Process := { s.process with
      signals := s.process.signals.setIfInBounds i ((s.board.signal i).register ⟨l, x.id⟩ []).2 }
    cases raised : (s.board.signal i).raised with
    | false =>
      refine .of_drive ?_ ?_ (.register l coroutine token x i h ht raised)
      · rw [hm, registerCancel_of_unraised _ _ _ ht raised]
        exact setPhase_board (p := q) _ hl _
      · simp only [Process.deeds, hp, requested, raised, Bool.false_and]
        rfl
    | true =>
      have kept : l < (requestCancel (Process.driverThread l) ⟨l, x.id⟩ q).2.loops.size := by
        refine Process.lt_size_of_phase ?_
        have same : ((requestCancel (Process.driverThread l) ⟨l, x.id⟩ q).2.loop l).driver =
          (s.process.loop l).driver := enqueue_driver _ l l _ q
        rw [same, hp]
        exact nofun
      refine .of_drive ?_ ?_ (.overtaken l coroutine token x i h ht raised isOpen)
      · rw [hm, registerCancel_of_raised _ _ _ ht raised]
        refine (setPhase_board _ kept _).trans ?_
        rw [requestCancel_board, if_pos (show q.takes _ _ = true from takes), Board.change_change]
        rfl
      · simp only [Process.deeds, hp, requested, raised, takes, Bool.and_self, if_true]

theorem accept_act {coroutine : Handle} {x : Tracked}
    (h : (s.board.desk l).phase = .accepting coroutine x) :
    s.Act (.drive l) (s.deeds (.drive l)) (s.step (.drive l)).board := by
  have hl := lt_size_of_desk h nofun
  have hp : (s.process.loop l).driver.phase = .accepting coroutine x := h
  have hm : (Bridge.step l s.process).2 = (acceptNext l coroutine x s.process).2 := step_accepting hp
  have accepted := Process.accept_board (pushes s.chores) hl x
  simp only [acceptNext, run_get_bind, run_modify_bind] at hm
  cases ha : (s.process.promise x.promise).awaited with
  | true =>
    refine .of_drive ?_ ?_ (.accept l coroutine x h ha)
    · rw [hm, ha]
      exact (tell_quiet _ _ _ _).trans accepted
    · simp only [Process.deeds, hp, ha]
      rfl
  | false =>
    refine .of_drive ?_ ?_ (.disown l coroutine x h ha)
    · rw [hm, ha]
      simp only [Bool.not_false, if_true]
      rw [run_bind, tell_quiet, cancelOne_board, accepted]
      rfl
    · simp only [Process.deeds, hp, ha]
      rfl

/-- A driver behind the last task begins again, or is to leave. -/
theorem round_act {n : Nat} (h : (s.board.desk l).phase = .concluding n)
    (last : (s.process.loop l).driver.tasks[n]? = none)
    (hm : (Bridge.step l s.process).2 = (setPhase l
      (if (s.process.loop l).driver.stopping && (s.process.loop l).driver.tasks.isEmpty
        then .closing else .entering) s.process).2) :
    s.Act (.drive l) (s.deeds (.drive l)) (s.step (.drive l)).board := by
  have hp : (s.process.loop l).driver.phase = .concluding n := h
  have none : s.process.deeds l = [] := by simp only [Process.deeds, hp, last]
  have undone : s.process.Undone l := by
    intro k x hk here
    cases hp.symm.trans hk
    exact nomatch last.symm.trans here
  refine .of_go h nofun rfl rfl hm (fun _ => none) ?_
    (Process.not_runFails_of_phase hp nofun nofun) undone
  split
  · next hs =>
    obtain ⟨stopping, tasks⟩ := Bool.and_eq_true_iff.mp hs
    exact .last h stopping (List.isEmpty_iff.mp tasks)
  · next hs =>
    refine .round h (List.getElem?_eq_none_iff.mp last) ?_
    show (s.process.loop l).driver.stopping = false ∨ (s.process.loop l).driver.tasks ≠ []
    revert hs
    cases (s.process.loop l).driver.stopping <;> simp

theorem conclude_act {n : Nat} (h : (s.board.desk l).phase = .concluding n) :
    s.Act (.drive l) (s.deeds (.drive l)) (s.step (.drive l)).board := by
  have hp : (s.process.loop l).driver.phase = .concluding n := h
  obtain ⟨last, he⟩ | ⟨x, here, came⟩ := concludeNext_cases s.process l n
  · exact round_act h last ((step_concluding hp).trans (congrArg Prod.snd he))
  have idles := ask_idle (Process.driverThread l) x.outcome? s.process
  have quiet : (ask (Process.driverThread l) x.outcome? s.process).2.board (pushes s.chores) =
      s.board := ask_quiet _ _ _ _
  obtain ⟨unanswered, he⟩ | ⟨o, answered, he⟩ := came <;>
    have hm := (step_concluding hp).trans (congrArg Prod.snd he)
  · refine .of_go h nofun quiet (by rw [idles.loops]) hm (fun hn => ?_)
      (.pass h (List.getElem?_eq_some_iff.mp here).1)
      (Process.not_runFails_of_phase hp nofun nofun) fun k y hk there => ?_
    · have : Bridge.Phase.concluding (n + 1) ≠ .concluding n := by simp
      simp only [Process.deeds, hp, here, hn, if_neg this]
    · cases hp.symm.trans hk
      cases here.symm.trans there
      exact unanswered
  · have hb : (Bridge.step l s.process).2.board (pushes s.chores) =
        ((s.board.giveUp x.registration).tell x.promise
          (.settled (s.process.kept l x o))).change l fun d =>
            { d with tasks := d.tasks.eraseIdx n } := by
      rw [hm, settleTask_board _ (by rw [idles.loop, here]), quiet]
      rfl
    have hn : ((Bridge.step l s.process).2.loop l).driver.phase = .concluding n := by
      rw [phase_of_board hb, Board.change_desk_self]
      exact h
    refine .of_drive hb ?_ (.conclude l n x o h here answered)
    simp only [Process.deeds, hp, here, hn, if_true]

theorem leave_act (h : (s.board.desk l).phase = .closing) :
    s.Act (.drive l) (s.deeds (.drive l)) (s.step (.drive l)).board := by
  have hp : (s.process.loop l).driver.phase = .closing := h
  have hm : (Bridge.step l s.process).2 = (leave l s.process).2 := step_closing hp
  refine .of_drive ?_ ?_ (.leave l h)
  · rw [hm, leave_board _ hp]
    rfl
  · simp only [Process.deeds, hp]
    rfl

/-- Whatever move a driver makes, it is one of the acts. -/
theorem drive_act (sound : s.Sound) (l : LoopId) :
    s.Act (.drive l) (s.deeds (.drive l)) (s.step (.drive l)).board := by
  cases h : (s.board.desk l).phase with
  | entering => exact enter_act h
  | looping => exact loop_act h
  | iterating n =>
    cases n with
    | zero => exact return_act h
    | succ left => exact iterate_act h
  | draining => exact drain_act h
  | starting coroutine token i => exact start_act h
  | registering coroutine token x => exact register_act sound h
  | accepting coroutine x => exact accept_act h
  | concluding n => exact conclude_act h
  | closing => exact leave_act h
  | exited =>
    have hp : (s.process.loop l).driver.phase = .exited := h
    refine .of_drive ?_ (by simp only [Process.deeds, hp]) (.wait l (.inr h))
    simp only [Bridge.step, run_get_bind, hp, run_pure]
    rfl

end

end System

end EmbeddedPython
