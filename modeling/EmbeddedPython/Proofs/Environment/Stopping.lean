import EmbeddedPython.Proofs.Environment.Order
import EmbeddedPython.Proofs.Environment.Settling

/-
  Stopping a driver

  A driver that has been told to stop asks each of its tasks to cancel, starts
  no task any more, and leaves as soon as it has none. Until then it handles its
  requests in the order in which they were pushed, like any other driver.
-/

namespace EmbeddedPython

open Activity Bridge

/-! ## Asking a task to cancel -/

namespace Bridge.Tracked

/-- The call that asks a task to cancel. -/
def asking (x : Tracked) : Op Unit := do (← x.task.callMethod "cancel" []).drop

/-- The host after a task has been asked to cancel. -/
def asked (t : ThreadId) (x : Tracked) (h : Host) : Host :=
  match x.asking.perform t h with
  | (.ok _, k) => k
  | (.error _, k) => { k with log := k.log ++ [.warning "failed to cancel asyncio task"] }

end Bridge.Tracked

namespace Bridge

open Process

theorem giveUp_host (r : Cancellation.Registration) (p : Process) : (giveUp r p).2.host = p.host := by
  simp only [giveUp, run_modify]
  split <;> rfl

theorem cancelTask_host (t : ThreadId) (x : Tracked) (p : Process) :
    (cancelTask t x p).2.host = x.asked t p.host := by
  rw [cancelTask, run_bind, run_bind, Tracked.asked, ← giveUp_host x.registration p]
  simp only [ask, Tracked.asking]
  rcases Op.perform _ t (giveUp x.registration p).2.host with ⟨f | a, h⟩
  · cases f <;> rfl
  · rfl

theorem cancelTasks_host (t : ThreadId) (xs : List Tracked) (p : Process) :
    (xs.forM (cancelTask t) p).2.host = xs.foldl (fun h x => x.asked t h) p.host := by
  induction xs generalizing p with
  | nil => rfl
  | cons x xs ih => rw [run_forM_cons, ih, cancelTask_host, List.foldl_cons]

variable {p : Process} {l : LoopId}

theorem stopAll_host (h : (p.loop l).driver.stopping = false) : (stopAll l p).2.host =
    (p.loop l).driver.tasks.foldl (fun h x => x.asked (driverThread l) h) p.host := by
  simp only [stopAll, run_get_bind, h]
  exact cancelTasks_host _ _ _

theorem stopAll_of_stopping (h : (p.loop l).driver.stopping = true) : (stopAll l p).2 = p := by
  simp [stopAll, h]

/-- A request to stop is taken out and handled. -/
theorem step_stop {rest : List Request} (phase : (p.loop l).driver.phase = .draining)
    (h : (p.loop l).requests = .stop :: rest) :
    (Bridge.step l p).2 = (stopAll l (p.drain l)).2 := by
  rw [step_draining phase]
  simp only [drainOne, run_get_bind, h]
  rfl

/-- By the first request to stop every task is asked to cancel. -/
theorem step_stop_first {rest : List Request} (phase : (p.loop l).driver.phase = .draining)
    (h : (p.loop l).requests = .stop :: rest) (running : (p.loop l).driver.stopping = false) :
    (Bridge.step l p).2.host =
      (p.loop l).driver.tasks.foldl (fun h x => x.asked (driverThread l) h) p.host := by
  have hd := loop_drain h
  have host : (p.drain l).host = p.host := by
    simp only [Process.drain, h]
    rfl
  rw [step_stop phase h, stopAll_host (by rw [hd]; exact running), hd, host]

/-- A further request to stop is only taken out. -/
theorem step_stop_further {rest : List Request} (phase : (p.loop l).driver.phase = .draining)
    (h : (p.loop l).requests = .stop :: rest) (stopping : (p.loop l).driver.stopping = true) :
    (Bridge.step l p).2 = p.drain l := by
  rw [step_stop phase h, stopAll_of_stopping (by rw [loop_drain h]; exact stopping)]

/-- A driver that is to stop rejects a request and lets go of its coroutine. -/
theorem step_refuse {coroutine : Handle} {token : Cancellation.Token} {i : PromiseId}
    (phase : (p.loop l).driver.phase = .starting coroutine token i)
    (h : (p.loop l).driver.stopping = true) : (Bridge.step l p).2 =
      (tell (driverThread l) coroutine.drop (p.reject l i .canceled)).2 := by
  rw [step_starting phase, startNext_of_stays (by rw [h, Bool.true_or])]
  rfl

end Bridge

/-! ## The tasks of a driver that is to stop -/

namespace Bridge.Desk

/-- No turn adds a task to those of a driver that is to stop. -/
theorem Turn.shrinks {l : LoopId} {d d' : Desk} {ds : List Deed} (h : d.Turn l ds d')
    (stopping : d.stopping = true) (idle : d.phase.task? = none) :
    d'.stopping = true ∧ (d'.tasks.map (·.id)).Sublist (d.tasks.map (·.id)) := by
  have withdrawn (e : Desk) (p : TaskId → Bool) :
      (e.withdraw p).tasks.map (·.id) = e.tasks.map (·.id) := by
    rw [withdraw, List.map_map]
    refine List.map_congr_left fun y _ => ?_
    simp only [Function.comp_apply]
    split <;> rfl
  cases h with
  | opened vacant =>
    subst vacant
    cases stopping
  | fail phase => exact ⟨stopping, List.nil_sublist _⟩
  | takeCancel id rest phase h => exact ⟨stopping, by rw [withdrawn]⟩
  | takeStop rest phase h running => exact ⟨rfl, by rw [withdrawn]⟩
  | accept c x phase => simp [phase, Phase.task?] at idle
  | disown c x phase => simp [phase, Phase.task?] at idle
  | conclude n x phase here => exact ⟨stopping, (List.eraseIdx_sublist _ _).map _⟩
  | _ => exact ⟨stopping, .refl _⟩

end Bridge.Desk

namespace System

/-- The order that the requests of a loop have been handled in. -/
theorem inOrder_run (attached : Bool) (actions : List Action) (l : LoopId) :
    InOrder l (about l (history attached actions)) ((run attached actions).board.desk l) := by
  refine history_induction (I := fun H s => InOrder l (about l H) (s.board.desk l)) ?_
    (fun H s a _ h act => ?_) actions
  · cases attached <;> exact .initial l
  · rw [about_append]
    exact h.turn (act.turn l)

theorem shrinks_run (attached : Bool) (actions more : List Action) (l : LoopId) :
    let d := (run attached actions).board.desk l
    let d' := (run attached (actions ++ more)).board.desk l
    d.stopping = true →
      d'.stopping = true ∧ (d'.tasks.map (·.id)).Sublist (d.tasks.map (·.id)) := by
  intro d d' stopping
  induction more using List.reverseRecOn with
  | nil =>
    have same : d' = d := by simp only [d, d', List.append_nil]
    exact ⟨same ▸ stopping, same ▸ .refl _⟩
  | append_singleton more a ih =>
    have order := inOrder_run attached (actions ++ more) l
    have turn := (act (sound_run attached (actions ++ more)) a).turn l
    have next : run attached (actions ++ (more ++ [a])) =
        (run attached (actions ++ more)).step a := by
      rw [← List.append_assoc, run_append]
      rfl
    obtain ⟨stays, fewer⟩ := ih
    obtain ⟨stays', fewer'⟩ := turn.shrinks stays (order.idle stays)
    simp only [d', next]
    exact ⟨stays', fewer'.trans fewer⟩

section

variable {s : System} {a : Action} {ds : List Deed} {b : Board} {l : LoopId}

/-- What a driver that begins to leave has been told or has met. -/
theorem Act.closes (h : s.Act a ds b) (before : (s.board.desk l).phase ≠ .closing)
    (after : (b.desk l).phase = .closing) : a = .drive l ∧
      ((∃ n, (s.board.desk l).phase = .concluding n ∧ (s.board.desk l).stopping = true ∧
        (s.board.desk l).tasks = []) ∨ ∃ e, s.process.RunFails l e) := by
  have elsewhere {k : LoopId} {f : Desk → Desk} {b : Board}
      (h : ((b.change k f).desk l).phase = .closing) (hb : b.desk = s.board.desk)
      (hf : l = k → (f (s.board.desk l)).phase ≠ .closing) : False := by
    by_cases hk : l = k
    · subst hk
      rw [Board.change_desk_self, hb] at h
      exact hf rfl h
    · rw [Board.change_desk_of_ne _ hk, hb] at h
      exact before h
  cases h with
  | quiet | submit | source | raise | wait => exact absurd after before
  | refuse n k r pre post h closed =>
    rw [Board.answer_desk] at after
    exact absurd after before
  | openLoop a vacant other => exact (elsewhere after rfl (by nofun)).elim
  | push n k r pre post h isOpen =>
    exact (elsewhere after rfl fun _ => before).elim
  | go k phase goes runs =>
    by_cases hk : l = k
    · subst hk
      rw [Board.change_desk_self] at after
      subst after
      cases goes with
      | last h stopping tasks => exact ⟨rfl, .inl ⟨_, h, stopping, tasks⟩⟩
    · rw [Board.change_desk_of_ne _ hk] at after
      exact absurd after before
  | fail k e h =>
    by_cases hk : l = k
    · subst hk
      exact ⟨rfl, .inr ⟨e, h⟩⟩
    · rw [Board.change_desk_of_ne _ hk, Board.fail_desk] at after
      exact absurd after before
  | takeCancel k id rest phase h =>
    rw [Board.cancelOne_phase] at after
    exact (elsewhere after rfl (by nofun)).elim
  | takeStop k rest phase h =>
    rw [Board.stopAll_phase] at after
    exact (elsewhere after rfl (by nofun)).elim
  | disown k c x phase abandoned =>
    rw [Board.cancelOne_phase] at after
    exact (elsewhere after rfl (by nofun)).elim
  | conclude k n x o phase here h =>
    exact (elsewhere after rfl fun _ => before).elim
  | leave k phase => exact (elsewhere after (Board.hand_desk _ _) (by nofun)).elim
  | _ => exact (elsewhere after rfl (by nofun)).elim

/-- A driver that has been told to stop and has no task leaves. -/
theorem Act.last (h : s.Act (.drive l) ds b) {n : Nat}
    (phase : (s.board.desk l).phase = .concluding n) (stopping : (s.board.desk l).stopping = true)
    (tasks : (s.board.desk l).tasks = []) : (b.desk l).phase = .closing := by
  cases h with
  | quiet _ _ _ other | openLoop _ _ other => exact absurd rfl (other l)
  | wait _ hp => simp [phase] at hp
  | fail _ e hf =>
    rcases hf.phase with hp | ⟨left, hp⟩ <;> cases phase.symm.trans hp
  | go _ next goes =>
    rw [Board.change_desk_self]
    cases goes with
    | last => rfl
    | pass hp task => simp [tasks] at task
    | round hp done more => simp [stopping, tasks] at more
    | _ => cases phase.symm.trans ‹_›
  | conclude _ m x o hp here => simp [tasks] at here
  | _ => cases phase.symm.trans ‹_›

/-- A driver whose loop fails leaves. -/
theorem Act.fails (h : s.Act (.drive l) ds b) {e : Error} (hf : s.process.RunFails l e) :
    (b.desk l).phase = .closing := by
  have here : (s.board.desk l).phase = .entering ∨
      ∃ left, (s.board.desk l).phase = .iterating (left + 1) := hf.phase
  cases h with
  | quiet _ _ _ other | openLoop _ _ other => exact absurd rfl (other l)
  | go _ next goes runs => exact absurd hf (runs e)
  | fail => rw [Board.change_desk_self]
  | wait _ hp => rcases hp with hp | hp <;> simp [hp] at here
  | _ => simp [*] at here

/-- A driver begins to leave exactly when it has been told to stop and has no task left, or its
loop fails. -/
theorem Act.closing_iff (h : s.Act a ds b) (before : (s.board.desk l).phase ≠ .closing) :
    (b.desk l).phase = .closing ↔ a = .drive l ∧
      ((∃ n, (s.board.desk l).phase = .concluding n ∧ (s.board.desk l).stopping = true ∧
        (s.board.desk l).tasks = []) ∨ ∃ e, s.process.RunFails l e) := by
  refine ⟨h.closes before, ?_⟩
  rintro ⟨rfl, ⟨n, phase, stopping, tasks⟩ | ⟨e, hf⟩⟩
  · exact h.last phase stopping tasks
  · exact h.fails hf

/-- A driver that takes a request to stop is to stop. -/
theorem Act.stops (h : s.Act (.drive l) ds b) {rest : List Request}
    (phase : (s.board.desk l).phase = .draining)
    (next : (s.board.desk l).requests = .stop :: rest) : (b.desk l).stopping = true := by
  cases h with
  | quiet _ _ _ other | openLoop _ _ other => exact absurd rfl (other l)
  | wait _ hp => simp [phase] at hp
  | fail _ e hf => rcases hf.phase with hp | ⟨left, hp⟩ <;> cases phase.symm.trans hp
  | go _ next goes => cases goes <;> simp_all
  | takeSchedule _ c token i rest' _ hr => cases next.symm.trans hr
  | takeCancel _ id rest' _ hr => cases next.symm.trans hr
  | takeStop _ rest' _ hr => rw [Board.stopAll_self]
  | _ => cases phase.symm.trans ‹_›

/-- A driver that is not to stop starts the task of the request that it has in hand, unless the
signal of the request has been raised or the task cannot be set up. -/
theorem Act.starts (h : s.Act (.drive l) ds b) {coroutine task done : Handle}
    {token : Cancellation.Token} {i : PromiseId}
    (phase : (s.board.desk l).phase = .starting coroutine token i)
    (running : (s.board.desk l).stopping = false)
    (unrequested : token.isRequested s.board.signals = false)
    (prepared : s.process.setUp l coroutine = .ok (task, done)) :
    ds = [.start l s.board.nextTask i token] ∧ (b.desk l).phase =
      .registering coroutine token ⟨s.board.nextTask, task, done, i, .nothing⟩ := by
  cases h with
  | quiet _ _ _ other | openLoop _ _ other => exact absurd rfl (other l)
  | wait _ hp => simp [phase] at hp
  | fail _ e hf => rcases hf.phase with hp | ⟨left, hp⟩ <;> cases phase.symm.trans hp
  | go _ next goes => cases goes <;> simp_all
  | reject _ c t j why hp hw =>
    obtain ⟨rfl, rfl, rfl⟩ := Phase.starting.inj (phase.symm.trans hp)
    rcases hw with ⟨-, h⟩ | ⟨-, -, h⟩
    · cases running.symm.trans h
    · cases unrequested.symm.trans h
  | unprepared _ c t j e hp _ _ failed =>
    obtain ⟨rfl, rfl, rfl⟩ := Phase.starting.inj (phase.symm.trans hp)
    cases prepared.symm.trans failed
  | start _ c t j task' done' hp _ _ prepared' =>
    obtain ⟨rfl, rfl, rfl⟩ := Phase.starting.inj (phase.symm.trans hp)
    cases prepared.symm.trans prepared'
    exact ⟨rfl, by rw [Board.change_desk_self]⟩
  | _ => cases phase.symm.trans ‹_›

end

/-! ## What a refused caller has been told -/

/-- A driver that has a request in hand knows the promise. -/
theorem Sound.stage_inHand {s : System} (h : s.Sound) {l : LoopId} {i : PromiseId}
    (hand : (s.board.desk l).phase.promise? = some i) : ∃ stage, s.board.stage i = some stage := by
  obtain ⟨queued, -⟩ := (h.books.ledger l).of_inHand (h.books.tickets.queuings_le i) hand
  have hi := h.books.tickets.lt_size queued
  exact ⟨_, congrArg (Option.map _) (Array.getElem?_eq_getElem hi)⟩

theorem Act.refuses {s : System} {a : Action} {ds : List Deed} {b : Board} (sound : s.Sound)
    (h : s.Act a ds b) {l : LoopId} {i : PromiseId} {why : Refusal}
    (refused : .reject l i why ∈ ds) (hw : why ≠ .failed) :
    b.stage i = some (.settled (.error .canceled)) := by
  cases h with
  | reject k c token j why' phase hw' =>
    simp only [List.mem_singleton, Deed.reject.injEq] at refused
    obtain ⟨rfl, rfl, rfl⟩ := refused
    obtain ⟨stage, hs⟩ := sound.stage_inHand (l := l) (by rw [phase]; rfl)
    rw [Board.change_stage, Board.tell_stage_self, hs]
    rfl
  | unprepared k c token j e phase =>
    simp only [List.mem_singleton, Deed.reject.injEq] at refused
    exact absurd refused.2.2 hw
  | takeCancel k id rest phase hr =>
    cases (s.board.desk k).tasks.find? (·.id == id) <;> simp at refused
  | takeStop k rest phase hr => cases hs : (s.board.desk k).stopping <;> simp [hs] at refused
  | _ => simp at refused

/-- A caller whose request has been refused is told that it is cancelled, unless the task could not
be set up. -/
theorem refused_run (attached : Bool) (actions : List Action) {l : LoopId} {i : PromiseId}
    {why : Refusal} (refused : .reject l i why ∈ history attached actions) (hw : why ≠ .failed) :
    (run attached actions).board.stage i = some (.settled (.error .canceled)) := by
  refine history_induction (I := fun H s => .reject l i why ∈ H →
    s.board.stage i = some (.settled (.error .canceled))) (fun h => nomatch h)
    (fun H s a sound h act refused => ?_) actions refused
  rcases List.mem_append.mp refused with refused | refused
  · exact act.settled sound (h refused)
  · exact act.refuses sound refused hw

/-! ## The law of stopping -/

/-- What the requests of a loop come to, with what has been done about them. -/
structure Stops (s : System) (deeds : List Deed) (l : LoopId) : Prop where
  /-- requests leave the queue in the order in which they were pushed -/
  order : pushed deeds = removed deeds ++ (s.process.loop l).requests
  /-- and take effect in that order -/
  effective : (removed deeds).map Request.aim =
    effects deeds ++ (s.process.loop l).desk.undecided
  /-- the driver is to stop from the first request to stop on -/
  stopping : (s.process.loop l).driver.stopping = true ↔ .take l .stop ∈ deeds
  /-- by the first request to stop every task is asked to cancel, and nothing else happens to the
  interpreter; these are the tasks that were started before and have not been finished -/
  first : ∀ rest, (s.process.loop l).driver.phase = .draining →
    (s.process.loop l).requests = .stop :: rest → (s.process.loop l).driver.stopping = false →
    ((s.step (.drive l)).process.loop l).driver.stopping = true ∧
    (s.step (.drive l)).process.host = (s.process.loop l).driver.tasks.foldl
      (fun h x => x.asked (Process.driverThread l) h) s.process.host ∧
    ∀ c token i, .take l (.schedule c token i) ∈ deeds →
      (∃ why, .reject l i why ∈ deeds ∧ why ≠ .stopping) ∨
      ∃ id, .start l id i token ∈ deeds ∧
        (.finish l id ∈ deeds ∨ ∃ x ∈ (s.process.loop l).driver.tasks, x.id = id)
  /-- a further one changes nothing but the queue -/
  further : ∀ rest, (s.process.loop l).driver.phase = .draining →
    (s.process.loop l).requests = .stop :: rest → (s.process.loop l).driver.stopping = true →
    (s.step (.drive l)).process = s.process.drain l
  /-- before that a task is started, unless its signal has been raised or it cannot be set up -/
  starts : ∀ c token i task done, (s.process.loop l).driver.phase = .starting c token i →
    (s.process.loop l).driver.stopping = false → token.isRequested s.process.signals = false →
    s.process.setUp l c = .ok (task, done) →
    s.deeds (.drive l) = [.start l s.process.nextTask i token] ∧
    ((s.step (.drive l)).process.loop l).driver.phase =
      .registering c token ⟨s.process.nextTask, task, done, i, .nothing⟩
  /-- afterwards the caller is told that its request is cancelled, and the coroutine is let go -/
  refuses : ∀ c token i, (s.process.loop l).driver.phase = .starting c token i →
    (s.process.loop l).driver.stopping = true →
    (s.step (.drive l)).process =
      (tell (Process.driverThread l) c.drop (s.process.reject l i .canceled)).2
  /-- no task is started any more -/
  unstarted : ∀ id i token, .start l id i token ∉ sinceStop l deeds
  refused : ∀ c token i, .take l (.schedule c token i) ∈ sinceStop l deeds →
    (s.process.loop l).driver.phase = .starting c token i ∨
    (.reject l i .stopping ∈ sinceStop l deeds ∧
      (s.process.promise i).stage = .settled (.error .canceled))
  /-- the driver leaves when it is to stop and finds no task left, or when the loop of the
  interpreter fails -/
  leaves : ∀ a, (s.process.loop l).driver.phase ≠ .closing →
    (((s.step a).process.loop l).driver.phase = .closing ↔ a = .drive l ∧
      ((∃ n, (s.process.loop l).driver.phase = .concluding n ∧
        (s.process.loop l).driver.stopping = true ∧ (s.process.loop l).driver.tasks = []) ∨
      ∃ e, s.process.RunFails l e))

theorem step_drive (s : System) (l : LoopId) :
    (s.step (.drive l)).process = (Bridge.step l s.process).2 := rfl

theorem stage_of_board {s : System} {i : PromiseId} {stage : Bridge.Stage}
    (h : s.board.stage i = some stage) : (s.process.promise i).stage = stage := by
  obtain ⟨x, hx, rfl⟩ := Option.map_eq_some_iff.mp
    (show s.process.promises[i]?.map (·.stage) = _ from h)
  rw [Process.promise, Array.getD_eq_getD_getElem?, hx]
  rfl

/-- In every run the requests of a loop take effect in the order in which they were pushed. From the
first request to stop on the driver is to stop and asks every task to cancel; it starts no task any
more, so its tasks only become fewer, and it leaves as soon as it has none. -/
theorem stops_in_order (attached : Bool) (actions : List Action) (l : LoopId) :
    Stops (run attached actions) (about l (history attached actions)) l ∧
    ∀ more, ((run attached actions).process.loop l).driver.stopping = true →
      ((run attached (actions ++ more)).process.loop l).driver.stopping = true ∧
      (((run attached (actions ++ more)).process.loop l).driver.tasks.map (·.id)).Sublist
        (((run attached actions).process.loop l).driver.tasks.map (·.id)) := by
  have order := inOrder_run attached actions l
  have sound := sound_run attached actions
  have refused {i : PromiseId} {why : Refusal} (hr : .reject l i why ∈ history attached actions) :=
    refused_run attached actions hr
  generalize hs : run attached actions = s at order sound refused
  generalize hH : history attached actions = H at order refused
  have next := act sound (.drive l)
  refine ⟨?_, fun more => hs ▸ shrinks_run attached actions more l⟩
  exact {
    order := order.order
    effective := order.effective
    stopping := order.stopping
    first := fun rest phase hr running => by
      have untold : .take l .stop ∉ about l H := fun h =>
        Bool.false_ne_true (running.symm.trans (order.stopping.mpr h))
      refine ⟨?_, step_stop_first phase hr running, fun c token i taken => ?_⟩
      · exact next.stops phase hr
      · rcases order.decided c token i taken with hp | ⟨why, hw⟩ | ⟨id, hstart⟩
        · cases phase.symm.trans hp
        · exact .inl ⟨why, hw, fun he => untold (order.stopped i (he ▸ hw))⟩
        · refine .inr ⟨id, hstart, ?_⟩
          have live : (s.board.desk l).live = (s.process.loop l).driver.tasks ++
            (s.process.loop l).driver.phase.task?.toList := rfl
          rw [phase, show Phase.draining.task? = none from rfl, Option.toList_none,
            List.append_nil] at live
          exact live ▸ order.lasts id i token hstart
    further := fun rest phase hr stopping => step_stop_further phase hr stopping
    starts := fun c token i task done phase running unrequested prepared =>
      next.starts phase running unrequested prepared
    refuses := fun c token i phase stopping => step_refuse phase stopping
    unstarted := order.unstarted
    refused := fun c token i taken => (order.refused c token i taken).imp id fun hr =>
      ⟨hr, stage_of_board (refused (mem_about.mp ((List.dropWhile_sublist _).subset hr)).1 nofun)⟩
    leaves := fun a before => (act sound a).closing_iff before }

end System

end EmbeddedPython
