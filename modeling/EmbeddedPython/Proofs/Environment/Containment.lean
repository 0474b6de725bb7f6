import EmbeddedPython.Proofs.Bridge.SetUp
import EmbeddedPython.Proofs.Environment.Declining

/-
  Tasks that cannot be set up

  An awaitable may be any object, and whatever a driver asks of it to set up its
  task can raise. The driver then rejects the request and goes on with what it
  has. Nothing of the request stays with it, and the others notice no more of it
  than of the calls that the awaitable has been asked.
-/

namespace EmbeddedPython

open Activity Bridge

/-! ## Tasks that cannot be set up -/

namespace Bridge

/-- Everything that is asked of an awaitable to set up its task. -/
def tryStart (b : DriverBindings) (c : Handle) : Op Unit := do
  let _ ← startTask b c

end Bridge

/-- A process after a driver has tried to set up a task. -/
def Process.tried (p : Process) (l : LoopId) (c : Handle) : Process :=
  { p with
    nextTask := p.nextTask + 1
    host := ((startTask (p.loop l).driver.bindings c).perform (Process.driverThread l) p.host).2 }

namespace System

open Bridge

variable {s : System} {l : LoopId} {i : PromiseId} {c : Handle} {token : Cancellation.Token} {e : Error}

/-- A system whose driver has nothing in hand, where the number of one task has been left out. -/
def passOver (s : System) (l : LoopId) : System :=
  { s with process := { s.process with nextTask := s.process.nextTask + 1 }.emptyHanded l }

/-- A driver that cannot set up a task rejects its request. -/
theorem step_unprepared (phase : (s.process.loop l).driver.phase = .starting c token i)
    (running : (s.process.loop l).driver.stopping = false)
    (unrequested : token.isRequested s.process.signals = false)
    (failed : s.process.setUp l c = .error e) : (s.step (.drive l)).process =
      (refuse l c i e (s.process.tried l c)).2 := by
  rw [step_drive, step_starting phase]
  have tried : ask (Process.driverThread l) (startTask (s.process.loop l).driver.bindings c)
      { s.process with nextTask := s.process.nextTask + 1 } = (.error e, s.process.tried l c) := by
    have said := failed
    simp only [Process.setUp, Process.tried, ask] at said ⊢
    generalize (startTask (s.process.loop l).driver.bindings c).perform (Process.driverThread l)
      s.process.host = r at said ⊢
    obtain ⟨(e' | _ | _) | a, k⟩ := r <;> cases said <;> rfl
  obtain ⟨stays, -⟩ | ⟨-, q, came⟩ := startNext_cases s.process l c token i
  · simp [running, unrequested] at stays
  rw [tried] at came
  obtain ⟨_, ⟨⟩, he⟩ | ⟨_, _, ⟨⟩, -⟩ := came
  rw [he]

theorem unprepared_sameBut (sound : s.Sound)
    (phase : (s.process.loop l).driver.phase = .starting c token i)
    (running : (s.process.loop l).driver.stopping = false)
    (unrequested : token.isRequested s.process.signals = false)
    (failed : s.process.setUp l c = .error e) :
    (((s.passOver l).step (.operate (Process.driverThread l)
      (tryStart (s.process.loop l).driver.bindings c))).step
      (.operate (Process.driverThread l) c.drop)).SameBut i (s.step (.drive l)) := by
  have untold : s.board.Untold i :=
    sound.untold_inHand (l := l) (show (s.process.loop l).driver.phase.promise? = _ by rw [phase]; rfl)
  refine ⟨?_, ?_⟩
  · rw [step_unprepared phase running unrequested failed, step_operate, step_operate]
    have tried : (tell (Process.driverThread l) (tryStart (s.process.loop l).driver.bindings c)
        (s.passOver l).process).2 = (s.process.tried l c).emptyHanded l := by
      rw [tell_eq, tryStart, Op.perform_bind]
      simp only [Process.tried]
      rw [show (s.passOver l).process.host = s.process.host from rfl]
      rcases (startTask (s.process.loop l).driver.bindings c).perform (Process.driverThread l)
        s.process.host with ⟨_ | _, _⟩ <;> rfl
    show (tell _ _ (tell _ _ _).2).2.SameBut i _
    rw [tried]
    exact refuse_sameBut (p := s.process.tried l c) (unanswered_of_untold untold) l c e
  · rw [step_operate, step_operate]
    show s.chores ++ [] = s.chores
    exact List.append_nil _

end System


/-! ## What is left of a request whose task cannot be set up -/

namespace System

open Bridge

variable {s : System} {l : LoopId} {i : PromiseId} {c : Handle} {token : Cancellation.Token} {e : Error}

/-- The board, with what one caller is told left out. -/
def others (s : System) (i : PromiseId) : Board := s.board.tell i .submitted

theorem SameBut.others {s' : System} (h : SameBut i s s') : s'.others i = s.others i := by
  obtain ⟨q, chores⟩ := s'
  obtain ⟨process, rfl⟩ := h
  obtain ⟨journal, alike⟩ := process
  refine congrArg (fun stage => ({ s.others i with stage := stage } : Board)) (funext fun j => ?_)
  by_cases hj : j = i
  · subst hj
    refine (Board.tell_stage_self ..).trans (.trans ?_ (Board.tell_stage_self ..).symm)
    exact alike.made .submitted
  · refine (Board.tell_stage_of_ne _ hj _).trans (.trans ?_ (Board.tell_stage_of_ne _ hj _).symm)
    exact alike.stage hj

/-- The system as if the request that its driver has in hand were not there, after what is asked of
the awaitable has been asked. -/
def asked (s : System) (l : LoopId) (c : Handle) : System :=
  ((s.passOver l).step (.operate (Process.driverThread l)
    (tryStart (s.process.loop l).driver.bindings c))).step (.operate (Process.driverThread l) c.drop)

/-- What becomes of a request whose task cannot be set up. -/
structure Contained (s : System) (l : LoopId) (c : Handle) (i : PromiseId) (e : Error) : Prop where
  /-- the error is that of the step that fails; a task that there is by then is asked to cancel once
  and let go of, whatever comes of asking -/
  fails : (∃ made k m, StepFails (s.process.loop l).driver.bindings c (Process.driverThread l)
      s.process.host made e k ∧ CleansUp (Process.driverThread l) made k m ∧
      (s.step (.drive l)).process.host = (c.drop.perform (Process.driverThread l) m).2) ∨
    -- a stack that is used up takes the process with it
    ((startTask (s.process.loop l).driver.bindings c).perform (Process.driverThread l)
      s.process.host).1 = .error .overflow
  /-- the caller, who has not been told that the task has been started, is told so for good -/
  untold : (s.process.promise i).stage = .submitted
  told : ∀ later : List Action,
    ((later.foldl step (s.step (.drive l))).process.promise i).stage = .settled (.error e)
  /-- the tasks and the requests of all drivers and what waits on the signals stay as they are -/
  board : (s.step (.drive l)).board =
    ({ s.board with nextTask := s.board.nextTask + 1 }.tell i (.settled (.error e))).change l
      fun d => { d with phase := .draining }
  deeds : s.deeds (.drive l) = [.reject l i .failed]
  /-- no driver has a task for the request -/
  untracked : ∀ (later : List Action) k,
    ∀ x ∈ ((later.foldl step (s.step (.drive l))).board.desk k).live, x.promise ≠ i
  /-- everything goes on as if the request had not been there, and somebody else had asked of the
  awaitable what the driver asks -/
  asIf : ∀ later : List Action,
    SameBut i (later.foldl step (s.asked l c)) (later.foldl step (s.step (.drive l)))
  /-- if that makes no difference to the others, the request makes none -/
  apart : ∀ later : List Action,
    (later.foldl step (s.asked l c)).others i = (later.foldl step (s.passOver l)).others i →
    (later.foldl step (s.step (.drive l))).others i = (later.foldl step (s.passOver l)).others i

/-- A driver that cannot set up a task goes on without it. -/
theorem Sound.contained (sound : s.Sound)
    (phase : (s.process.loop l).driver.phase = .starting c token i)
    (running : (s.process.loop l).driver.stopping = false)
    (unrequested : token.isRequested s.process.signals = false)
    (failed : s.process.setUp l c = .error e) : Contained s l c i e := by
  have hl : l < s.process.loops.size := Process.lt_size_of_phase (by simp [phase])
  have hand : (s.board.desk l).phase.promise? = some i := by
    show (s.process.loop l).driver.phase.promise? = _
    rw [phase]
    rfl
  have next := step_unprepared phase running unrequested failed
  have board : (s.step (.drive l)).board =
      ({ s.board with nextTask := s.board.nextTask + 1 }.tell i (.settled (.error e))).change l
        fun d => { d with phase := .draining } := by
    show (s.step (.drive l)).process.board (pushes (s.chores ++ [])) = _
    rw [next, List.append_nil]
    exact refuse_board (p := s.process.tried l c) (pushes s.chores) hl c i e
  have told : ((s.step (.drive l)).process.promise i).stage = .settled (.error e) := by
    obtain ⟨stage, made⟩ := Option.isSome_iff_exists.mp (sound.made_inHand hand)
    refine stage_of_board ?_
    rw [board, Board.change_stage, Board.tell_stage_self]
    exact congrArg (Option.map _) made
  have same := unprepared_sameBut sound phase running unrequested failed
  have sound' (later : List Action) := (sound.step (.drive l)).steps later
  have stands := (sound.step (.drive l)).stands told
  exact {
    fails := by
      obtain ⟨f, raised, same⟩ := ask_error failed
      have present : (s.board.desk l).phase ≠ .exited := fun exited => by cases phase.symm.trans exited
      have alive := sound.alive present
      rcases startTask_error alive (Prod.ext raised rfl) with rfl | ⟨made, e', k, rfl, fails, cleans⟩
      · exact .inr raised
      · cases same
        refine .inl ⟨made, k, _, fails, cleans, ?_⟩
        rw [next, refuse, run_modify_bind, tell_host]
        rfl
    untold := stage_submitted (sound.untold_inHand hand)
    told := stands
    board := board
    deeds := by
      have draining := phase_of_board (l := l) board
      rw [Board.change_desk_self] at draining
      show s.process.deeds l = _
      rw [reject_deed phase draining]
      simp [Driver.refusal, running, unrequested]
    untracked := fun later k x hx => by
      rintro rfl
      rcases List.mem_append.mp hx with hx | hx
      · exact (sound' later).unsettled_tracked hx _ (board_settled (stands later))
      · have hand : ((later.foldl System.step (s.step (.drive l))).board.desk k).phase.promise? =
            some x.promise := Phase.promise?_of_task? (Option.mem_toList.mp hx)
        cases (sound' later).untold_inHand hand _ (board_settled (stands later))
    asIf := same.steps
    apart := fun later alike => (same.steps later).others.trans alike }

/-- When the task of a request cannot be set up, its caller is told what the step has failed by, and
nothing of the request is left: no task has been or is started for it, no callback waits on its
behalf, and everything else goes on as if it had not been there. -/
theorem failed_set_up_contained (attached : Bool) (before : List Action) {l : LoopId} {c : Handle}
    {token : Cancellation.Token} {i : PromiseId} {e : Error}
    (phase : ((run attached before).process.loop l).driver.phase = .starting c token i)
    (running : ((run attached before).process.loop l).driver.stopping = false)
    (unrequested : token.isRequested (run attached before).process.signals = false)
    (failed : (run attached before).process.setUp l c = .error e) :
    Contained (run attached before) l c i e ∧ ∀ later,
      (∀ k id token', .start k id i token' ∉ history attached (before ++ .drive l :: later)) ∧
      (SourcesMade 0 (before ++ .drive l :: later) → ∀ j,
        ∀ w ∈ (run attached (before ++ .drive l :: later)).board.waiting j,
          ∃ x ∈ ((run attached (before ++ .drive l :: later)).board.desk w.callback.loop).live,
            x.id = w.callback.task ∧ x.promise ≠ i) := by
  have sound := sound_run attached before
  have contained := sound.contained phase running unrequested failed
  refine ⟨contained, fun later => ⟨?_, fun made j w hw => ?_⟩⟩
  · intro k id token'
    refine unattempted_run attached before later ?_ ?_ (contained.told []) (.start k id token') ?_
    · exact sound.untold_inHand (l := l) (congrArg Phase.promise? phase)
    · exact fun k x hand => sound.taskless (.inr (.inr ⟨l, c, token, phase⟩)) hand
    · rw [contained.deeds]
      simp
  · obtain ⟨x, hx, same, -⟩ := (routed_run attached _ made).listed.entered j w hw
    have live := (Desk.armed_sublist_live _).subset hx
    refine ⟨x, live, same, ?_⟩
    rw [run_append, List.foldl_cons] at live
    exact contained.untracked later _ x live

/-- A program makes two coroutines and a future of another loop. -/
def makeAwaitables : Op Unit := do
  let _ ← Op.request [] (Eval.make .coroutine (.coroutine ⟨.created, [.pausing 5]⟩))
  let _ ← Op.request [] (Eval.make .future (.future ⟨Ref.none, .pending, [], [], none⟩))
  let _ ← Op.request [] (Eval.make .coroutine (.coroutine ⟨.created, [.pausing 5]⟩))

/-- All three are submitted. The first coroutine is tracked and the future is to be started. -/
def foreign : List Action :=
  [.start 0 Options.default, .proceed 0] ++ [.openLoop 0 0, .operate 0 makeAwaitables,
    .submit 0 0 (Handle.adopt (.cell 11)) ⟨none⟩, .submit 0 0 (Handle.adopt (.cell 12)) ⟨none⟩,
    .submit 0 0 (Handle.adopt (.cell 13)) ⟨none⟩] ++ List.replicate 6 (.proceed 0) ++
  List.replicate 11 (.drive 0)

theorem foreign_state :
    ((run true foreign).process.loop 0).driver.phase = .starting (Handle.adopt (.cell 12)) ⟨none⟩ 1 ∧
    ((run true foreign).process.loop 0).driver.stopping = false ∧
    ((run true foreign).process.loop 0).driver.tasks.length = 1 ∧
    ((run true foreign).process.loop 0).requests.length = 1 ∧
    (run true foreign).process.setUp 0 (Handle.adopt (.cell 12)) = .error (.python ⟨"ValueError",
      "The future belongs to a different loop than the one specified as the loop argument"⟩) := by
  rw [foreign, List.append_assoc, List.append_assoc, run_started]
  decide +kernel

/-- The caller of the future is told that it belongs to another loop, and no more comes of it. -/
theorem foreign_contained :
    Contained (run true foreign) 0 (Handle.adopt (.cell 12)) 1 (.python ⟨"ValueError",
      "The future belongs to a different loop than the one specified as the loop argument"⟩) ∧
    (∀ k id token', .start k id 1 token' ∉ history true (foreign ++ [Action.drive 0])) ∧
    ∀ j, ∀ w ∈ (run true (foreign ++ [Action.drive 0])).board.waiting j,
      ∃ x ∈ ((run true (foreign ++ [Action.drive 0])).board.desk w.callback.loop).live,
        x.id = w.callback.task ∧ x.promise ≠ 1 := by
  obtain ⟨phase, running, -, -, failed⟩ := foreign_state
  have made : SourcesMade 0 (foreign ++ [Action.drive 0]) := by
    simp [SourcesMade, foreign, Action.Within, Cancellation.Token.Within]
  obtain ⟨contained, told⟩ := failed_set_up_contained true foreign phase running rfl failed
  exact ⟨contained, (told []).1, (told []).2 made⟩

end System

end EmbeddedPython
