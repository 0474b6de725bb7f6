import EmbeddedPython.Proofs.Bridge.Report
import EmbeddedPython.Proofs.Environment.Memory
import EmbeddedPython.Proofs.Environment.Stopping

/-
  What callers are told

  A caller whose task has been started is told what asyncio says that the task
  has come to, or that the loop itself has failed. The driver can ask because it
  holds live handles to the task and to the method that says whether it is done,
  from the start of the task until it lets go of it. That something has been
  cancelled is said only where asyncio has confirmed it, and to those whose task
  has never been started.
-/

namespace EmbeddedPython

open Activity Bridge

/-! ## What a driver asks -/

/-- Whether a driver can ask a task what it has come to. -/
structure Bridge.Tracked.Askable (x : Tracked) (m : Memory) : Prop where
  live : x.Live
  answers : m.Answers x.task.ref x.done.ref

theorem Bridge.Tracked.Askable.retains {x : Tracked} {m n : Memory} (h : x.Askable m)
    (hr : m.Retains n) : x.Askable n :=
  ⟨h.live, h.answers.retains hr⟩

/-- Whether two records are about the same task of the interpreter, for the same caller. -/
def Bridge.Tracked.SameTask (x y : Tracked) : Prop :=
  x.task = y.task ∧ x.done = y.done ∧ x.promise = y.promise

theorem Bridge.Tracked.Askable.same {x y : Tracked} {m : Memory} (h : x.Askable m)
    (same : x.SameTask y) : y.Askable m := by
  obtain ⟨task, done, -⟩ := same
  obtain ⟨⟨ht, hd⟩, answers⟩ := h
  exact ⟨⟨task ▸ ht, done ▸ hd⟩, task ▸ done ▸ answers⟩

namespace Bridge.Desk

variable {d : Desk}

theorem live_withdraw {p : TaskId → Bool} {x : Tracked} (hx : x ∈ (d.withdraw p).live) :
    ∃ y ∈ d.live, y.SameTask x := by
  rcases List.mem_append.mp hx with hx | hx
  · obtain ⟨y, hy, rfl⟩ := List.mem_map.mp hx
    refine ⟨y, List.mem_append_left _ hy, ?_⟩
    split <;> exact ⟨rfl, rfl, rfl⟩
  · exact ⟨x, List.mem_append_right _ hx, rfl, rfl, rfl⟩

/-- The tasks of a driver are those that it had, and the one that it starts. -/
theorem Turn.live {l : LoopId} {d' : Desk} {ds : List Deed} (turn : d.Turn l ds d') {x : Tracked}
    (hx : x ∈ d'.live) : (∃ y ∈ d.live, y.SameTask x) ∨
      ∃ c token i, d.phase = .starting c token i ∧ d'.phase = .registering c token x := by
  have stays {y : Tracked} (hy : y ∈ d.live) : ∃ z ∈ d.live, z.SameTask y := ⟨y, hy, rfl, rfl, rfl⟩
  have tracked {y : Tracked} (hy : y ∈ d.tasks) : ∃ z ∈ d.live, z.SameTask y :=
    stays (List.mem_append_left _ hy)
  -- no task is being set up before or after most turns
  have idle {k : Desk} (hx : x ∈ k.live) (none : k.phase.task? = .none)
      (tasks : k.tasks = d.tasks) : ∃ z ∈ d.live, z.SameTask x := by
    rw [Desk.live, none, tasks, Option.toList_none, List.append_nil] at hx
    exact tracked hx
  cases turn with
  | idle | push => exact .inl (stays hx)
  | opened vacant => cases hx
  | go phase goes => exact .inl (idle hx (by cases goes <;> rfl) rfl)
  | fail phase => cases hx
  | takeSchedule | reject | leave => exact .inl (idle hx rfl rfl)
  | takeCancel id rest phase h =>
    obtain ⟨y, hy, same⟩ := live_withdraw hx
    exact .inl ⟨y, hy, same⟩
  | takeStop rest phase h running =>
    obtain ⟨y, hy, same⟩ := live_withdraw hx
    exact .inl ⟨y, hy, same⟩
  | takeAnother rest phase h stopping => exact .inl (stays hx)
  | start c token i y phase running =>
    rcases List.mem_append.mp hx with hx | hx
    · exact .inl (tracked hx)
    · obtain rfl : x = y := by simpa [Phase.task?] using hx
      exact .inr ⟨c, token, i, phase, rfl⟩
  | register c token y r phase =>
    rcases List.mem_append.mp hx with hx | hx
    · exact .inl (tracked hx)
    · obtain rfl : x = { y with registration := r } := by simpa [Phase.task?] using hx
      exact .inl ⟨y, List.mem_append_right _ (by simp [phase, Phase.task?]), rfl, rfl, rfl⟩
  | overtaken c token y phase =>
    rcases List.mem_append.mp hx with hx | hx
    · exact .inl (tracked hx)
    · obtain rfl : x = { y with registration := .nothing } := by simpa [Phase.task?] using hx
      exact .inl ⟨y, List.mem_append_right _ (by simp [phase, Phase.task?]), rfl, rfl, rfl⟩
  | accept c y phase =>
    refine .inl (stays ?_)
    simpa [Desk.live, phase, Phase.task?] using hx
  | disown c y phase =>
    obtain ⟨z, hz, same⟩ := live_withdraw hx
    refine .inl ⟨z, ?_, same⟩
    simpa [Desk.live, phase, Phase.task?] using hz
  | conclude n y phase here =>
    rw [Desk.live, phase, show (Phase.concluding n).task? = none from rfl, Option.toList_none,
      List.append_nil] at hx
    exact .inl (tracked (List.mem_of_mem_eraseIdx hx))

end Bridge.Desk

namespace System

variable {s : System} {l : LoopId}

/-- A desk whose driver does not move keeps its tasks and its phase, and gets a request only by a
push, unless it is the desk of a driver that is started. -/
theorem Act.elsewhere {a : Action} {ds : List Deed} {b : Board} (h : s.Act a ds b)
    (other : a ≠ .drive l) : ((b.desk l).phase = (s.board.desk l).phase ∧
      (b.desk l).tasks = (s.board.desk l).tasks ∧
      ((b.desk l).requests = (s.board.desk l).requests ∨
        ∃ n r, a = .proceed n ∧ ds = [.push l r] ∧ (s.board.desk l).isOpen = true)) ∨
      b.desk l = Desk.fresh ∧ a.Opens ∧ l = s.process.loops.size := by
  have away {k : LoopId} {f : Desk → Desk} {b : Board} (hb : b.desk = s.board.desk)
      (hk : Action.drive k ≠ .drive l) : ((b.change k f).desk l) = s.board.desk l := by
    rw [Board.change_desk_of_ne _ (fun h => hk (congrArg _ h.symm)), hb]
  have kept {d : Desk} {P : Prop} (hd : d = s.board.desk l) :
      d.phase = (s.board.desk l).phase ∧ d.tasks = (s.board.desk l).tasks ∧
        (d.requests = (s.board.desk l).requests ∨ P) := by
    rw [hd]
    exact ⟨rfl, rfl, .inl rfl⟩
  cases h with
  | quiet | submit | source | raise => exact .inl ⟨rfl, rfl, .inl rfl⟩
  | refuse n k r pre post h closed =>
    rw [Board.answer_desk]
    exact .inl ⟨rfl, rfl, .inl rfl⟩
  | openLoop a vacant _ opens =>
    by_cases hk : l = s.process.loops.size
    · subst hk
      rw [Board.change_desk_self]
      exact .inr ⟨rfl, opens, rfl⟩
    · rw [Board.change_desk_of_ne _ hk]
      exact .inl ⟨rfl, rfl, .inl rfl⟩
  | push n k r pre post h isOpen =>
    by_cases hk : l = k
    · subst hk
      rw [Board.change_desk_self]
      exact .inl ⟨rfl, rfl, .inr ⟨n, r, rfl, rfl, isOpen⟩⟩
    · rw [Board.change_desk_of_ne _ hk]
      exact .inl ⟨rfl, rfl, .inl rfl⟩
  | wait => exact .inl ⟨rfl, rfl, .inl rfl⟩
  | fail k e h => exact .inl (kept (away (Board.fail_desk _ _ _) other))
  | takeCancel k id rest phase h =>
    have hk : l ≠ k := fun h => other (h ▸ rfl)
    rw [Board.cancelOne_of_ne _ hk]
    exact .inl (kept (away rfl other))
  | takeStop k rest phase h =>
    have hk : l ≠ k := fun h => other (h ▸ rfl)
    rw [Board.stopAll_of_ne _ hk]
    exact .inl (kept (away rfl other))
  | disown k c x phase abandoned =>
    have hk : l ≠ k := fun h => other (h ▸ rfl)
    rw [Board.cancelOne_of_ne _ hk]
    exact .inl (kept (away rfl other))
  | leave k phase => exact .inl (kept (away (Board.hand_desk _ _) other))
  | _ => exact .inl (kept (away rfl other))

theorem ask_error {α : Type} {t : ThreadId} {op : Op α} {p : Process} {e : Error}
    (h : (ask t op p).1 = .error e) : op.Fails t p.host e := by
  simp only [ask] at h
  simp only [Op.Fails]
  generalize op.perform t p.host = b at h ⊢
  obtain ⟨(e' | _ | _) | a, k⟩ := b <;> cases h <;> exact ⟨_, rfl, rfl⟩

/-- What an operation returns is returned to a thread that asks for it. -/
theorem ask_returns {α : Type} {op : Op α} {a : α} {m : Memory} {p : Process} (t : ThreadId)
    (returns : op.Returns p.host.memory a m) (alive : p.host.lock.alive = true) :
    ∃ k, ask t op p = (.ok a, { p with host := k }) ∧ k.memory = m ∧ k.lock.alive = true := by
  obtain ⟨k, performed, same⟩ := returns t p.host alive rfl
  refine ⟨k, by simp only [ask, performed], same, ?_⟩
  have := Op.alive_perform op t alive
  rwa [performed] at this

/-- A request that a driver refuses leaves it draining. -/
theorem refuse_phase {p : Process} (hl : l < p.loops.size) (c : Handle) (i : PromiseId) (e : Error) :
    ((refuse l c i e p).2.loop l).driver.phase = .draining := by
  have hd := congrArg (fun b : Board => (b.desk l).phase) (refuse_board [] hl c i e)
  rw [Board.change_desk_self] at hd
  exact hd

theorem setPhase_phase {p : Process} (hl : l < p.loops.size) (phase : Bridge.Phase) :
    ((setPhase l phase p).2.loop l).driver.phase = phase := by
  have hd := congrArg (fun b : Board => (b.desk l).phase) (setPhase_board [] hl phase)
  rw [Board.change_desk_self] at hd
  exact hd

/-- A task that has been started is one that could be set up, for the caller of the request. -/
theorem starts_setUp {c : Handle} {token : Cancellation.Token} {i : PromiseId} {x : Tracked}
    (phase : (s.process.loop l).driver.phase = .starting c token i)
    (next : ((s.step (.drive l)).process.loop l).driver.phase = .registering c token x) :
    x.promise = i ∧ (startTask (s.process.loop l).driver.bindings c).perform (Process.driverThread l)
      s.process.host = (.ok (x.task, x.done), (s.step (.drive l)).process.host) := by
  have hl : l < s.process.loops.size := Process.lt_size_of_phase (by simp [phase])
  rw [step_drive, step_starting phase] at next ⊢
  obtain ⟨-, he⟩ | ⟨-, q, came⟩ := startNext_cases s.process l c token i
  · rw [he, refuse_phase hl] at next
    cases next
  have size := congrArg Array.size (ask_idle (Process.driverThread l)
    (startTask (s.process.loop l).driver.bindings c)
    { s.process with nextTask := s.process.nextTask + 1 }).loops
  obtain ⟨e, asked, he⟩ | ⟨task, done, asked, he⟩ := came <;> rw [asked] at size <;>
    rw [he] at next ⊢
  · rw [refuse_phase (size ▸ hl)] at next
    cases next
  · rw [setPhase_phase (size ▸ hl)] at next
    cases next
    have set := ask_ok asked
    exact ⟨rfl, set⟩

/-- The tasks of a driver stay those that they are, and belong to the callers that they were
started for. -/
theorem live_step (sound : s.Sound) (a : Action) {x : Tracked}
    (hx : x ∈ ((s.step a).board.desk l).live) : (∃ y ∈ (s.board.desk l).live, y.SameTask x) ∨
      ∃ c token, a = .drive l ∧ (s.process.loop l).driver.phase = .starting c token x.promise ∧
        (startTask (s.process.loop l).driver.bindings c).perform (Process.driverThread l)
          s.process.host = (.ok (x.task, x.done), (s.step a).process.host) := by
  have h := act sound a
  refine ((h.turn l).live hx).imp_right fun ⟨c, token, i, phase, next⟩ => ?_
  obtain rfl : a = .drive l := by
    refine Classical.byContradiction fun other => ?_
    rcases h.elsewhere other with ⟨same, -⟩ | ⟨fresh, -⟩
    · cases next.symm.trans (same.trans phase)
    · rw [fresh] at next
      cases next
  obtain ⟨rfl, set⟩ := starts_setUp phase next
  exact ⟨c, token, rfl, phase, set⟩

/-- A driver can ask every task that it has. -/
theorem askable_run (attached : Bool) (actions : List Action) (l : LoopId) :
    ∀ x ∈ ((run attached actions).board.desk l).live,
      x.Askable (run attached actions).process.host.memory := by
  refine history_induction
    (I := fun _ s => ∀ x ∈ (s.board.desk l).live, x.Askable s.process.host.memory)
    (fun x hx => ?_) (fun H s a sound h _ x hx => ?_) actions
  · cases attached <;> cases hx
  · rcases live_step sound a hx with ⟨y, hy, same⟩ | ⟨c, token, -, -, set⟩
    · exact ((h y hy).retains (step_retains s a)).same same
    · obtain ⟨task, done, answers⟩ := startTask_ok set
      exact ⟨⟨task, done⟩, answers⟩

/-! ## What a caller is told -/

theorem answer?_eq (p : Process) (l : LoopId) (x : Tracked) :
    p.answer? l x = Tracked.learnt (x.outcome?.perform (Process.driverThread l) p.host).1 := by
  simp only [Process.answer?, ask]
  rcases x.outcome?.perform (Process.driverThread l) p.host with ⟨(e | _ | _) | o, k⟩ <;> rfl

/-- Whoever still waits learns everything. -/
theorem kept_of_awaited {p : Process} {x : Tracked}
    (awaited : (p.promise x.promise).awaited = true) (l : LoopId) (o : Bridge.Outcome) :
    p.kept l x o = o := by
  have same : ((giveUp x.registration (ask (Process.driverThread l) x.outcome? p).2).2.promise
      x.promise).awaited = true := by
    rw [(giveUp_idle _ _).promise, (ask_idle _ _ _).promise, awaited]
  simp only [Process.kept, keepOutcome, run_get_bind, same]
  cases o <;> rfl

/-- What is kept is taken for a cancellation only if it is one. -/
theorem kept_canceled {p : Process} {x : Tracked} (alive : p.host.lock.alive = true)
    {o : Bridge.Outcome} (h : p.kept l x o = .error .canceled) : o = .error .canceled := by
  have asked := ask_idle (Process.driverThread l) x.outcome? p
  have alive' : (giveUp x.registration (ask (Process.driverThread l) x.outcome? p).2).2.host.lock.alive
      = true := by
    rw [giveUp_host]
    exact (congrArg Option.isSome asked.host.interpreter).trans alive
  simp only [Process.kept, keepOutcome, run_get_bind] at h
  generalize (giveUp x.registration (ask (Process.driverThread l) x.outcome? p).2).2 = q at h alive'
  rcases o with e | v
  · exact h
  · cases hw : (q.promise x.promise).awaited <;> rw [hw] at h
    · exact absurd rfl ((Handle.dispose_proper v).fails alive' (ask_error h))
    · cases h

/-- The loop of the interpreter does not fail by being cancelled. -/
theorem runFails_ne_canceled (alive : s.process.host.lock.alive = true) {e : Error}
    (h : s.process.RunFails l e) : e ≠ .canceled := by
  cases h with
  | closed => simp [closedLoop]
  | raised phase h =>
    obtain ⟨x, entry, rest, here, ready, h⟩ := h
    refine (Op.ask_proper _ _).fails ?_ (ask_error h)
    simp only [Process.changePythonLoop, here]
    exact alive

theorem setUp_ne_canceled (alive : s.process.host.lock.alive = true) {c : Handle} {e : Error}
    (h : s.process.setUp l c = .error e) : e ≠ .canceled :=
  (startTask_proper _ _).fails alive (ask_error h)

/-- An awaitable that cannot be submitted has not been cancelled. -/
theorem prepare_ne_canceled {p : Process} (alive : p.host.lock.alive = true) {t : ThreadId}
    {awaitable : Handle} {token : Cancellation.Token} {e : Error}
    (h : (prepare t l awaitable token p).1 = .error e) : e ≠ .canceled := by
  have prepares := prepare_prepares t l awaitable token p
  generalize prepare t l awaitable token p = result at prepares h
  have failed {α : Type} {op : Op α} {q r : Process} {e : Error} (asked : ask t op q = (.error e, r)) :
      op.Fails t q.host e := ask_error (congrArg Prod.fst asked)
  have alive' {α : Type} {op : Op α} {q : Process} {r : Except Error α}
      (asked : ask t op p = (r, q)) : q.host.lock.alive = true :=
    (congrArg Option.isSome (ask_idles asked).host.interpreter).trans alive
  cases prepares <;> cases h
  case disposed => simp
  case refused => simp
  case unasked asked => exact (Handle.hasAttr_proper awaitable _).fails alive (failed asked)
  case unnamed asked named =>
    exact (Op.orElse_certain awaitable.typeName_proper _).proper.fails (alive' asked) (failed named)
  case uncloned asked cloned => exact awaitable.clone_proper.fails (alive' asked) (failed cloned)

/-- How a caller comes to be told something. -/
inductive Tells (s : System) : Action → PromiseId → Bridge.Outcome → Prop where
  /-- the queue is closed before it takes the request -/
  | refused (n : Nat) {i : PromiseId} (untold : (s.process.promise i).stage = .submitted) :
      Tells s (.proceed n) i (.error .eventLoopClosed)
  /-- the driver leaves before it has taken the request out -/
  | cleared {l : LoopId} {i : PromiseId} (phase : (s.process.loop l).driver.phase = .closing)
      (untold : (s.process.promise i).stage = .submitted) :
      Tells s (.drive l) i (.error .eventLoopClosed)
  /-- the driver is to stop, or the signal of the request has been raised -/
  | rejected {l : LoopId} {c : Handle} {token : Cancellation.Token} {i : PromiseId}
      (phase : (s.process.loop l).driver.phase = .starting c token i)
      (untold : (s.process.promise i).stage = .submitted)
      (h : (s.process.loop l).driver.stopping = true ∨ token.isRequested s.process.signals = true) :
      Tells s (.drive l) i (.error .canceled)
  /-- the task of the request cannot be set up -/
  | unprepared {l : LoopId} {c : Handle} {token : Cancellation.Token} {i : PromiseId} {e : Error}
      (phase : (s.process.loop l).driver.phase = .starting c token i)
      (untold : (s.process.promise i).stage = .submitted)
      (h : s.process.setUp l c = .error e) (other : e ≠ .canceled) : Tells s (.drive l) i (.error e)
  /-- the call that runs the loop of the interpreter fails -/
  | failed {l : LoopId} {x : Tracked} {e : Error} (h : s.process.RunFails l e)
      (tracked : x ∈ (s.process.loop l).driver.tasks) (other : e ≠ .canceled) :
      Tells s (.drive l) x.promise (.error e)
  /-- the task of the request is found to be done; whoever still waits learns what it reports -/
  | concluded {l : LoopId} {n : Nat} {x : Tracked} {o told : Bridge.Outcome}
      (phase : (s.process.loop l).driver.phase = .concluding n)
      (here : (s.process.loop l).driver.tasks[n]? = some x)
      (reports : x.Reports (Process.driverThread l) s.process.host (some o))
      (same : (s.process.promise x.promise).awaited = true ∨ told = .error .canceled → told = o) :
      Tells s (.drive l) x.promise told

/-- What a caller has not been told before and is told by an action. -/
def Learns (s : System) (a : Action) (i : PromiseId) (o : Bridge.Outcome) : Prop :=
  (∀ o', (s.process.promise i).stage ≠ .settled o') ∧
    ((s.step a).process.promise i).stage = .settled o

theorem stage_submitted {i : PromiseId} (h : s.board.Untold i) :
    (s.process.promise i).stage = .submitted := by
  cases hs : s.board.stage i with
  | some stage => rw [promise_stage hs, h stage hs]
  | none =>
    have beyond : s.process.promises[i]? = none := Option.map_eq_none_iff.mp hs
    rw [Process.promise, Array.getD_eq_getD_getElem?, beyond]
    rfl

theorem board_settled {i : PromiseId} {o : Bridge.Outcome}
    (h : (s.process.promise i).stage = .settled o) : s.board.stage i = some (.settled o) := by
  cases hs : s.board.stage i with
  | some stage => rw [← h, promise_stage hs]
  | none =>
    have untold : s.board.Untold i := fun stage h => nomatch hs.symm.trans h
    rw [stage_submitted untold] at h
    cases h

theorem Learns.resolves (sound : s.Sound) {a : Action} {i : PromiseId} {o : Bridge.Outcome}
    (h : s.Learns a i o) : s.Resolves a i o :=
  (act sound a).resolves (fun o' ho => h.1 o' (stage_of_board ho)) (board_settled h.2)

/-- Whatever a caller is told, it is for one of the reasons. -/
theorem Resolves.tells (sound : s.Sound) {a : Action} {i : PromiseId} {o : Bridge.Outcome}
    (h : s.Resolves a i o) : s.Tells a i o := by
  have inHand {l : LoopId} {c : Handle} {token : Cancellation.Token} {i : PromiseId}
      (phase : (s.board.desk l).phase = .starting c token i) :
      (s.process.promise i).stage = .submitted :=
    stage_submitted (sound.untold_inHand (l := l) (by rw [phase]; rfl))
  cases h with
  | refused n pending closed hi =>
    exact .refused n (stage_submitted (sound.untold_pending pending hi))
  | cleared phase waiting hi => exact .cleared phase (stage_submitted (sound.untold_waiting waiting hi))
  | rejected phase h => exact .rejected phase (inHand phase) h
  | unprepared phase h =>
    exact .unprepared phase (inHand phase) h
      (setUp_ne_canceled (sound.alive fun he => nomatch phase.symm.trans he) h)
  | @failed l e x h tracked =>
    refine .failed h tracked (runFails_ne_canceled (sound.alive (l := l) ?_) h)
    rcases h.phase with hp | ⟨left, hp⟩ <;> exact fun he => nomatch hp.symm.trans he
  | @concluded l n x o phase here h =>
    have alive := sound.alive fun he => nomatch phase.symm.trans he
    refine .concluded phase here (Tracked.reports_iff.mpr ((answer?_eq _ _ _).symm.trans h)) ?_
    rintro (awaited | canceled)
    · exact kept_of_awaited awaited l o
    · exact canceled.trans (kept_canceled alive canceled).symm

/-! ## What a driver finds when it looks at a task -/

/-- A driver that looks at a task settles the promise of the task, if the task is done. -/
theorem Act.looks {ds : List Deed} {b : Board} (sound : s.Sound) (h : s.Act (.drive l) ds b) {n : Nat}
    {x : Tracked} (phase : (s.board.desk l).phase = .concluding n)
    (here : (s.board.desk l).tasks[n]? = some x) : b.stage x.promise =
      some ((s.process.answer? l x).elim .accepted fun o => .settled (s.process.kept l x o)) := by
  have accepted := sound.stage_tracked (l := l) (List.mem_of_getElem? here)
  cases h with
  | quiet _ _ _ other | openLoop _ _ other => exact absurd rfl (other l)
  | wait _ hp => simp [phase] at hp
  | fail _ e hf => rcases hf.phase with hp | ⟨left, hp⟩ <;> cases phase.symm.trans hp
  | go _ next goes runs undone =>
    rw [undone n x phase here]
    exact accepted
  | conclude _ m y o hp there answers =>
    cases phase.symm.trans hp
    cases here.symm.trans there
    rw [answers, Board.change_stage, Board.tell_stage_self, Board.giveUp_stage, accepted]
    rfl
  | _ => cases phase.symm.trans ‹_›

/-- A driver that looks at a task tells its caller what the task has come to, if anything. -/
theorem learns_iff (sound : s.Sound) {n : Nat} {x : Tracked}
    (phase : (s.process.loop l).driver.phase = .concluding n)
    (here : (s.process.loop l).driver.tasks[n]? = some x)
    (awaited : (s.process.promise x.promise).awaited = true) (o : Bridge.Outcome) :
    s.Learns (.drive l) x.promise o ↔
      x.Reports (Process.driverThread l) s.process.host (some o) := by
  have before : ∀ o', (s.process.promise x.promise).stage ≠ .settled o' := by
    rw [promise_stage (sound.stage_tracked (l := l) (List.mem_of_getElem? here))]
    nofun
  have after := promise_stage ((act sound (.drive l)).looks sound phase here)
  rw [Tracked.reports_iff, ← answer?_eq, Learns, after]
  refine (and_iff_right before).trans ?_
  cases s.process.answer? l x with
  | none => simp
  | some told => simp [kept_of_awaited awaited]

/-- What a caller whose task asyncio has made learns when the driver looks at the task: `f` is how
the task stands. -/
structure LearnsFrom (s : System) (l : LoopId) (x : Tracked) (f : Future) : Prop where
  /-- it learns something as soon as the task is done -/
  done : (∃ o, s.Learns (.drive l) x.promise o) ↔ f.outcome.isDone = true
  /-- the very object that the task has returned -/
  returned : ∀ v, s.Learns (.drive l) x.promise (.ok v) ↔
    ∃ r, f.outcome = .result r ∧ v = Handle.adopt r
  cancelled : s.Learns (.drive l) x.promise (.error .canceled) ↔ f.outcome = .cancelled
  /-- an exception, only if the task has raised one, which is then translated -/
  raised : ∀ err, s.Learns (.drive l) x.promise (.error (.python err)) → ∃ r, f.outcome = .failed r ∧
    (r ≠ Ref.none → ∃ k, s.process.host.Becomes k ∧
      ((PythonError.ofException (Handle.adopt r)).perform (Process.driverThread l) k).1 = .ok err)
  /-- and whenever it has raised one, unless translating it uses up the stack -/
  translated : ∀ r, f.outcome = .failed r →
    (∃ err, s.Learns (.drive l) x.promise (.error (.python err))) ∨
    (x.outcome?.perform (Process.driverThread l) s.process.host).1 = .error .overflow

theorem learnsFrom (sound : s.Sound) {n : Nat} {x : Tracked} {f : Future}
    (phase : (s.process.loop l).driver.phase = .concluding n)
    (here : (s.process.loop l).driver.tasks[n]? = some x)
    (awaited : (s.process.promise x.promise).awaited = true)
    (askable : x.Askable s.process.host.memory)
    (future : s.process.host.memory.GenuineFuture x.task.ref f) : s.LearnsFrom l x f := by
  have alive := sound.alive fun he => nomatch phase.symm.trans he
  have conveys := Tracked.conveys askable.live (t := Process.driverThread l) alive askable.answers future
  have learns (o : Bridge.Outcome) := learns_iff sound phase here awaited o
  simp only [Tracked.reports_iff] at learns
  generalize Tracked.learnt (x.outcome?.perform (Process.driverThread l) s.process.host).1 = answer
    at conveys learns
  generalize hf : f.outcome = fo at conveys
  cases conveys with
  | pending =>
    constructor <;> simp [learns, hf, FutureOutcome.isDone]
  | cancelled =>
    constructor <;> simp [learns, hf, FutureOutcome.isDone]
  | returned v =>
    constructor <;> simp [learns, hf, FutureOutcome.isDone, eq_comm]
  | raised r err translated =>
    refine ⟨?_, ?_, ?_, ?_, ?_⟩ <;> simp [learns, hf, FutureOutcome.isDone]
    exact translated
  | spent r overflow =>
    constructor <;> simp [learns, hf, FutureOutcome.isDone, overflow]

/-! ## What every run tells -/

/-- That callers are told what has come of their requests, and nothing else. -/
structure Truthful (s : System) : Prop where
  /-- an awaitable that is not taken is refused for another reason than a cancellation -/
  prepared : s.process.host.lock.alive = true → ∀ t l awaitable token e,
    (prepare t l awaitable token s.process).1 = .error e → e ≠ .canceled
  /-- a task stays with the caller that it was started for -/
  kept : ∀ a l, ∀ x ∈ ((s.step a).board.desk l).live, (∃ y ∈ (s.board.desk l).live, y.SameTask x) ∨
    ∃ c token, a = .drive l ∧ (s.process.loop l).driver.phase = .starting c token x.promise ∧
      s.process.setUp l c = .ok (x.task, x.done)
  told : ∀ a i o, s.Learns a i o → s.Tells a i o
  /-- a caller whose task has been started learns what the task reports when its driver looks, or
  that the loop has failed -/
  accepted : ∀ a i o, (s.process.promise i).stage = .accepted → s.Learns a i o →
    ∃ l, a = .drive l ∧ ∃ x ∈ (s.process.loop l).driver.tasks, x.promise = i ∧
      ((∃ e, s.process.RunFails l e ∧ o = .error e) ∨
        ((s.process.promise i).awaited = true →
          x.Reports (Process.driverThread l) s.process.host (some o)))
  /-- what asyncio says of a task that it has made is what its caller learns -/
  genuine : ∀ l n x f, (s.process.loop l).driver.phase = .concluding n →
    (s.process.loop l).driver.tasks[n]? = some x → (s.process.promise x.promise).awaited = true →
    s.process.host.memory.GenuineFuture x.task.ref f → s.LearnsFrom l x f
  /-- that something has been cancelled is said by the task, or the task has never been started -/
  canceled : ∀ a i, s.Learns a i (.error .canceled) → ∃ l, a = .drive l ∧
    ((∃ c token, (s.process.loop l).driver.phase = .starting c token i ∧
        ((s.process.loop l).driver.stopping = true ∨ token.isRequested s.process.signals = true)) ∨
      ∃ n x k, (s.process.loop l).driver.phase = .concluding n ∧
        (s.process.loop l).driver.tasks[n]? = some x ∧ x.promise = i ∧
        x.Admits (Process.driverThread l) s.process.host true k)
  /-- no caller learns anything when a signal is raised or when requests to cancel are handled -/
  asking : ∀ i o, (∀ t j, ¬ s.Learns (.cancel t j) i o) ∧
    ∀ l, (s.process.loop l).driver.phase = .draining → ¬ s.Learns (.drive l) i o

theorem truthful (sound : s.Sound)
    (askable : ∀ l, ∀ x ∈ (s.board.desk l).live, x.Askable s.process.host.memory) : s.Truthful where
  prepared alive t l awaitable token e h := prepare_ne_canceled alive h
  kept a l x hx := by
    refine (live_step sound a hx).imp_right fun ⟨c, token, ha, phase, set⟩ => ?_
    refine ⟨c, token, ha, phase, ?_⟩
    simp only [Process.setUp, ask, set]
  told a i o learns := (learns.resolves sound).tells sound
  accepted a i o accepted learns := by
    have started {P : Prop} (h : (s.process.promise i).stage = .submitted) : P :=
      by cases h.symm.trans accepted
    cases (learns.resolves sound).tells sound with
    | refused _ untold | cleared _ untold | rejected _ untold | unprepared _ untold =>
      exact started untold
    | @failed l x e runFails tracked => exact ⟨l, rfl, x, tracked, rfl, .inl ⟨e, runFails, rfl⟩⟩
    | @concluded l n x told _ phase here reports same =>
      refine ⟨l, rfl, x, List.mem_of_getElem? here, rfl, .inr fun awaited => ?_⟩
      exact same (.inl awaited) ▸ reports
  genuine l n x f phase here awaited future :=
    learnsFrom sound phase here awaited
      (askable l x (List.mem_append_left _ (List.mem_of_getElem? here))) future
  canceled a i learns := by
    generalize ho : (.error .canceled : Bridge.Outcome) = o at learns
    cases (learns.resolves sound).tells sound with
    | refused | cleared => cases ho
    | @rejected l c token _ phase _ h => exact ⟨l, rfl, .inl ⟨c, token, phase, h⟩⟩
    | unprepared _ _ _ other | failed _ _ other =>
      cases ho
      exact absurd rfl other
    | @concluded l n x o' _ phase here reports same =>
      have alive := sound.alive fun he => by cases phase.symm.trans he
      have said : (.error .canceled : Bridge.Outcome) = o' := ho.trans (same (.inr ho.symm))
      obtain ⟨k, admits⟩ := (Tracked.Reports.cancelled_iff alive).mp (said ▸ reports)
      exact ⟨l, rfl, .inr ⟨n, x, k, phase, here, rfl, admits⟩⟩
  asking i o := by
    refine ⟨fun t j learns => ?_, fun l draining learns => ?_⟩
    · cases (learns.resolves sound).tells sound
    · cases (learns.resolves sound).tells sound with
      | failed runFails =>
        rcases runFails.phase with hp | ⟨left, hp⟩ <;> cases draining.symm.trans hp
      | _ => cases draining.symm.trans ‹_›

/-- What a caller has been told is never taken back. -/
theorem settled_run (attached : Bool) (actions more : List Action) {i : PromiseId}
    {o : Bridge.Outcome} (h : ((run attached actions).process.promise i).stage = .settled o) :
    ((run attached (actions ++ more)).process.promise i).stage = .settled o := by
  suffices told : (run attached (actions ++ more)).board.stage i = some (.settled o) from
    promise_stage told
  induction more using List.reverseRecOn with
  | nil =>
    rw [List.append_nil]
    exact board_settled h
  | append_singleton more a ih =>
    have sound := sound_run attached (actions ++ more)
    rw [← List.append_assoc, run_append attached _ [a]]
    exact (act sound a).settled sound ih

/-- In every run, callers are told what has come of their requests, and that stands. -/
theorem callers_told_the_truth (attached : Bool) (actions : List Action) :
    (run attached actions).Truthful ∧
    ∀ i o, ((run attached actions).process.promise i).stage = .settled o →
      ∀ more, ((run attached (actions ++ more)).process.promise i).stage = .settled o :=
  ⟨truthful (sound_run attached actions) fun l x hx => askable_run attached actions l x hx,
    fun _ _ h more => settled_run attached actions more h⟩

end System

end EmbeddedPython
