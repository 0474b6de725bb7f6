import EmbeddedPython.Proofs.Bridge.Change

/-
  Moves as changes

  The moves that look at something first are taken apart once, by what they find.
  Every move of a driver is a sequence of changes (`step_turning`), and so is
  everything that a thread of the host does to a loop that it has.
-/

namespace EmbeddedPython

open Activity Bridge

namespace Process

/-- What comes of the next entry of the loop of the interpreter, which is taken out of the queue. -/
def ran (p : Process) (l : LoopId) (entry : Scheduled) (rest : List Scheduled) :
    Except Error Unit × Process :=
  let r := (p.loop l).driver.bindings.object.ref
  ask (driverThread l) (Op.ask [r] (Eval.runReady Machine.top r entry))
    (p.changePythonLoop l fun x => { x with ready := rest })

/-- What a task is found to have come to, if it is done. -/
def answer? (p : Process) (l : LoopId) (x : Tracked) : Option Bridge.Outcome :=
  match (ask (driverThread l) x.outcome? p).1 with
  | .ok outcome => outcome
  | .error e => some (.error e)

end Process

namespace Bridge

open Process

/-! ## The move that belongs to a phase -/

section

variable {p : Process} {l : LoopId}

theorem step_entering (h : (p.loop l).driver.phase = .entering) :
    (Bridge.step l p).2 = (enterLoop l p).2 := by
  simp only [Bridge.step, run_get_bind, h]
  rfl

theorem step_iterating_zero (h : (p.loop l).driver.phase = .iterating 0) :
    (Bridge.step l p).2 = (endIteration l p).2 := by
  simp only [Bridge.step, run_get_bind, h]
  rfl

theorem step_iterating_succ {left : Nat} (h : (p.loop l).driver.phase = .iterating (left + 1)) :
    (Bridge.step l p).2 = (runNext l left p).2 := by
  simp only [Bridge.step, run_get_bind, h]
  rfl

theorem step_draining (h : (p.loop l).driver.phase = .draining) :
    (Bridge.step l p).2 = (drainOne l p).2 := by
  simp only [Bridge.step, run_get_bind, h]
  rfl

theorem step_starting {coroutine : Handle} {token : Cancellation.Token}
    {i : PromiseId} (h : (p.loop l).driver.phase = .starting coroutine token i) :
    (Bridge.step l p).2 = (startNext l coroutine token i p).2 := by
  simp only [Bridge.step, run_get_bind, h]
  rfl

theorem step_registering {coroutine : Handle} {token : Cancellation.Token}
    {x : Tracked} (h : (p.loop l).driver.phase = .registering coroutine token x) :
    (Bridge.step l p).2 = (registerNext l coroutine token x p).2 := by
  simp only [Bridge.step, run_get_bind, h]
  rfl

theorem step_accepting {coroutine : Handle} {x : Tracked} (h : (p.loop l).driver.phase = .accepting coroutine x) :
    (Bridge.step l p).2 = (acceptNext l coroutine x p).2 := by
  simp only [Bridge.step, run_get_bind, h]
  rfl

theorem step_concluding {n : Nat} (h : (p.loop l).driver.phase = .concluding n) :
    (Bridge.step l p).2 = (concludeNext l n p).2 := by
  simp only [Bridge.step, run_get_bind, h]
  rfl

theorem step_closing (h : (p.loop l).driver.phase = .closing) :
    (Bridge.step l p).2 = (leave l p).2 := by
  simp only [Bridge.step, run_get_bind, h]
  rfl

theorem step_looping (h : (p.loop l).driver.phase = .looping) :
    (Bridge.step l p).2 = (beginIteration l p).2 := by
  simp only [Bridge.step, run_get_bind, h]

end

/-! ## What a move comes to -/

/-- Takes a task that is done off the list, and settles its promise. -/
def settleTask (l : LoopId) (n : Nat) (x : Tracked) (o : Outcome) : Activity Unit := do
  giveUp x.registration
  let kept ← keepOutcome (driverThread l) x.promise o
  modify fun p => p.finish l n kept
  tell (driverThread l) x.drop

section

variable (p : Process) (l : LoopId)

/-- A driver finds the loop of the interpreter closed, or calls it. -/
theorem enterLoop_cases :
    (∃ x, p.pythonLoop? l = some x ∧ x.closed = true ∧
      enterLoop l p = failAll l closedLoop p) ∨
    (∀ x, p.pythonLoop? l = some x → x.closed = false) ∧ enterLoop l p =
      setPhase l .looping (p.changePythonLoop l fun x => { x with running := true }) := by
  rcases hx : p.pythonLoop? l with _ | ⟨ready, stopping, closed, running, log⟩
  · refine .inr ⟨nofun, ?_⟩
    simp only [enterLoop, run_get_bind, hx]
    rfl
  · cases closed with
    | true => exact .inl ⟨_, rfl, rfl, by simp only [enterLoop, run_get_bind, hx]⟩
    | false =>
      refine .inr ⟨fun x h => by rw [← Option.some.inj h], ?_⟩
      simp only [enterLoop, run_get_bind, hx]
      rfl

/-- Behind the last entry of an iteration a loop that has been told to stop returns. -/
theorem endIteration_cases :
    (∃ x, p.pythonLoop? l = some x ∧ x.stopping = true ∧ endIteration l p =
      setPhase l .draining
        (p.changePythonLoop l fun x => { x with stopping := false, running := false })) ∨
    (∀ x, p.pythonLoop? l = some x → x.stopping = false) ∧
      endIteration l p = setPhase l .looping p := by
  rcases hx : p.pythonLoop? l with _ | ⟨ready, stopping, closed, running, log⟩
  · exact .inr ⟨nofun, by simp only [endIteration, run_get_bind, hx]⟩
  · cases stopping with
    | true =>
      refine .inl ⟨_, rfl, rfl, ?_⟩
      simp only [endIteration, run_get_bind, hx]
      rfl
    | false =>
      refine .inr ⟨fun x h => by rw [← Option.some.inj h], ?_⟩
      simp only [endIteration, run_get_bind, hx]

/-- An iteration ends early when nothing is ready. What an entry raises ends the call of the loop. -/
theorem runNext_cases (left : Nat) :
    (∀ x, p.pythonLoop? l = some x → x.ready = []) ∧
      runNext l left p = setPhase l (.iterating 0) p ∨
    ∃ x entry rest, p.pythonLoop? l = some x ∧ x.ready = entry :: rest ∧ ∃ q,
      (p.ran l entry rest = (.ok (), q) ∧ runNext l left p = setPhase l (.iterating left) q ∨
      ∃ e, p.ran l entry rest = (.error e, q) ∧ runNext l left p = failAll l e
        (q.changePythonLoop l fun x => { x with stopping := false, running := false })) := by
  rcases hx : p.pythonLoop? l with _ | ⟨_ | ⟨entry, rest⟩, stopping, closed, running, log⟩
  · exact .inl ⟨nofun, by simp only [runNext, run_get_bind, hx]⟩
  · refine .inl ⟨fun x h => by rw [← Option.some.inj h], ?_⟩
    simp only [runNext, run_get_bind, hx]
  · refine .inr ⟨_, entry, rest, rfl, rfl, ?_⟩
    simp only [runNext, run_get_bind, hx]
    rw [run_bind, run_bind]
    have run : ask (driverThread l) (Op.ask [(p.loop l).driver.bindings.object.ref]
      (Eval.runReady Machine.top (p.loop l).driver.bindings.object.ref entry))
      (modifyPythonLoop l (fun x => { x with ready := rest }) p).2 = p.ran l entry rest := rfl
    rw [run]
    obtain ⟨e | _, q⟩ := p.ran l entry rest
    · exact ⟨q, .inr ⟨e, rfl, rfl⟩⟩
    · exact ⟨q, .inl ⟨rfl, rfl⟩⟩

/-- A driver that is to stop, or whose caller has cancelled the task, starts nothing. -/
theorem startNext_cases (coroutine : Handle) (token : Cancellation.Token) (i : PromiseId) :
    ((p.loop l).driver.stopping || token.isRequested p.signals) = true ∧
      startNext l coroutine token i p = refuse l coroutine i .canceled p ∨
    ((p.loop l).driver.stopping || token.isRequested p.signals) = false ∧ ∃ q,
      let asked := ask (driverThread l) (startTask (p.loop l).driver.bindings coroutine)
        { p with nextTask := p.nextTask + 1 }
      ((∃ e, asked = (.error e, q) ∧ startNext l coroutine token i p = refuse l coroutine i e q) ∨
      ∃ task done, asked = (.ok (task, done), q) ∧ startNext l coroutine token i p =
        setPhase l (.registering coroutine token ⟨p.nextTask, task, done, i, .nothing⟩) q) := by
  cases hc : ((p.loop l).driver.stopping || token.isRequested p.signals) with
  | true =>
    refine .inl ⟨rfl, ?_⟩
    simp only [startNext, run_get_bind, if_pos hc]
  | false =>
    refine .inr ⟨rfl, ?_⟩
    simp only [startNext, run_get_bind, hc, Bool.false_eq_true, if_false, run_set_bind]
    rw [run_bind]
    generalize ask (driverThread l) (startTask (p.loop l).driver.bindings coroutine) _ = b
    obtain ⟨e | ⟨task, done⟩, q⟩ := b
    · exact ⟨q, .inl ⟨e, rfl, rfl⟩⟩
    · exact ⟨q, .inr ⟨task, done, rfl, rfl⟩⟩

variable {p l} in
theorem startNext_of_stays {coroutine : Handle} {token : Cancellation.Token} {i : PromiseId}
    (h : ((p.loop l).driver.stopping || token.isRequested p.signals) = true) :
    startNext l coroutine token i p = refuse l coroutine i .canceled p :=
  (startNext_cases p l coroutine token i).elim And.right fun go =>
    Bool.noConfusion (go.1.symm.trans h)

/-- A driver goes on behind the last task and behind one that is not done. -/
theorem concludeNext_cases (n : Nat) :
    (p.loop l).driver.tasks[n]? = none ∧ concludeNext l n p = setPhase l
      (if (p.loop l).driver.stopping && (p.loop l).driver.tasks.isEmpty then .closing
        else .entering) p ∨
    ∃ x, (p.loop l).driver.tasks[n]? = some x ∧
      (p.answer? l x = none ∧
        concludeNext l n p = setPhase l (.concluding (n + 1)) (ask (driverThread l) x.outcome? p).2 ∨
      ∃ o, p.answer? l x = some o ∧
        concludeNext l n p = settleTask l n x o (ask (driverThread l) x.outcome? p).2) := by
  cases hx : (p.loop l).driver.tasks[n]? with
  | none => exact .inl ⟨rfl, by simp only [concludeNext, run_get_bind, hx]⟩
  | some x =>
    refine .inr ⟨x, rfl, ?_⟩
    simp only [concludeNext, run_get_bind, hx, answer?]
    rw [run_bind]
    generalize ask (driverThread l) x.outcome? p = b
    obtain ⟨e | (_ | o), q⟩ := b
    · exact .inr ⟨.error e, rfl, rfl⟩
    · exact .inl ⟨rfl, rfl⟩
    · exact .inr ⟨o, rfl, rfl⟩

variable {p l} in
theorem concludeNext_of_answer {n : Nat} {x : Tracked} {o : Outcome}
    (here : (p.loop l).driver.tasks[n]? = some x) (answered : p.answer? l x = some o) :
    concludeNext l n p = settleTask l n x o (ask (driverThread l) x.outcome? p).2 := by
  obtain ⟨last, -⟩ | ⟨y, there, came⟩ := concludeNext_cases p l n
  · exact nomatch here.symm.trans last
  cases here.symm.trans there
  obtain ⟨unanswered, -⟩ | ⟨o', answered', he⟩ := came
  · exact nomatch answered.symm.trans unanswered
  · rw [he, Option.some.inj (answered.symm.trans answered')]

end

/-! ## Moves of a driver -/

theorem setPhase_turns {p : Process} {l : LoopId} {old phase : Bridge.Phase}
    (h : (p.loop l).driver.phase = old) (same : phase.promise? = old.promise?)
    (before : old ≠ .exited) (live : phase ≠ .exited)
    (idle : phase = .closing → (p.loop l).driver.tasks = []) :
    p.Turns (setPhase l phase p).2 :=
  .single (.move l phase (h ▸ same) (h ▸ before) live idle)

theorem changePythonLoop_phase {p : Process} {l : LoopId} {old : Bridge.Phase}
    (h : (p.loop l).driver.phase = old) (f : Loop → Loop) :
    ((p.changePythonLoop l f).loop l).driver.phase = old := by
  simpa using h

theorem ran_turns (p : Process) (l : LoopId) (entry : Scheduled) (rest : List Scheduled) :
    p.Turns (p.ran l entry rest).2 :=
  .head (.python l _) (ask_idle _ _ _).turns

@[simp] theorem ran_loops (p : Process) (l : LoopId) (entry : Scheduled) (rest : List Scheduled) :
    (p.ran l entry rest).2.loops = p.loops := by
  rw [ran, (ask_idle _ _ _).loops, changePythonLoop_loops]

/-- Failing all tasks takes them off one by one. -/
theorem finishAll_turns (l : LoopId) (e : Error) (xs : List Tracked) {p : Process}
    (h : (p.loop l).driver.tasks.length = xs.length) :
    let q := (xs.forM (fun x => do
      giveUp x.registration
      modify fun p : Process => p.finish l 0 (.error e)) p).2
    p.Turns q ∧ (q.loop l).driver = { (p.loop l).driver with tasks := [] } := by
  induction xs generalizing p with
  | nil =>
    have ht := List.eq_nil_of_length_eq_zero h
    refine ⟨.refl, ?_⟩
    show (p.loop l).driver = _
    rw [← ht]
  | cons x xs ih =>
    have hq := giveUp_idle x.registration p
    have hl : 0 < ((giveUp x.registration p).2.loop l).driver.tasks.length := by
      rw [hq.loop, h]
      exact Nat.succ_pos _
    have hf := loop_finish hl (.error e)
    obtain ⟨ht, hd⟩ := ih (p := (giveUp x.registration p).2.finish l 0 (.error e)) (by
      rw [hf, hq.loop]
      simp [h])
    refine ⟨hq.turns.trans (.head (.finish l 0 _) ht), ?_⟩
    refine hd.trans ?_
    rw [hf, hq.loop]

theorem failAll_turns {p : Process} {l : LoopId} {old : Bridge.Phase} (e : Error)
    (h : (p.loop l).driver.phase = old) (same : old.promise? = none) (before : old ≠ .exited) :
    p.Turns (failAll l e p).2 := by
  have hn := note_idle (.error "event loop failed") p
  let tasks := (p.loop l).driver.tasks
  obtain ⟨ht, hd⟩ := finishAll_turns l e tasks (p := (note (.error "event loop failed") p).2)
    (by rw [hn.loop])
  refine (hn.turns.trans ht).trans (.head (.move l .closing ?_ ?_ ?_ ?_) ?_)
  · rw [hd, hn.loop, h, same]
    rfl
  · rw [hd, hn.loop, h]
    exact before
  · exact Bridge.Phase.noConfusion
  · intro _
    rw [hd]
  · exact (Idle.forM fun x : Tracked => tell_idle _ x.drop).turning _

theorem enterLoop_turns {p : Process} {l : LoopId} (h : (p.loop l).driver.phase = .entering) :
    p.Turns (enterLoop l p).2 := by
  obtain ⟨-, -, -, he⟩ | ⟨-, he⟩ := enterLoop_cases p l <;> rw [he]
  · exact failAll_turns _ h rfl nofun
  · exact .head (.python l _) (setPhase_turns (changePythonLoop_phase h _) rfl nofun nofun nofun)

theorem beginIteration_turns {p : Process} {l : LoopId}
    (h : (p.loop l).driver.phase = .looping) : p.Turns (beginIteration l p).2 := by
  rcases hp : p.pythonLoop? l with _ | x
  · simp only [beginIteration, run_get_bind, hp]
    exact .refl
  · by_cases hx : (x.stopping || !x.ready.isEmpty) = true
    · simp only [beginIteration, run_get_bind, hp, hx, if_true]
      exact setPhase_turns h rfl nofun nofun nofun
    · simp only [beginIteration, run_get_bind, hp, hx]
      exact .refl

theorem endIteration_turns {p : Process} {l : LoopId} {n : Nat}
    (h : (p.loop l).driver.phase = .iterating n) : p.Turns (endIteration l p).2 := by
  obtain ⟨-, -, -, he⟩ | ⟨-, he⟩ := endIteration_cases p l <;> rw [he]
  · exact .head (.python l _) (setPhase_turns (changePythonLoop_phase h _) rfl nofun nofun nofun)
  · exact setPhase_turns h rfl nofun nofun nofun

theorem runNext_turns {p : Process} {l : LoopId} {n left : Nat}
    (h : (p.loop l).driver.phase = .iterating n) : p.Turns (runNext l left p).2 := by
  obtain ⟨-, he⟩ | ⟨-, entry, rest, -, -, q, came⟩ := runNext_cases p l left
  · rw [he]
    exact setPhase_turns h rfl (by rintro ⟨⟩) (by rintro ⟨⟩) (by rintro ⟨⟩)
  · have turns := ran_turns p l entry rest
    have phase : ((p.ran l entry rest).2.loop l).driver.phase = .iterating n := by
      rw [Process.loop, ran_loops]
      exact h
    obtain ⟨ran, he⟩ | ⟨e, ran, he⟩ := came <;> rw [ran] at turns phase <;> rw [he]
    · exact turns.trans
        (setPhase_turns phase rfl (by rintro ⟨⟩) (by rintro ⟨⟩) (by rintro ⟨⟩))
    · exact (turns.trans (.single (.python l _))).trans
        (failAll_turns e (changePythonLoop_phase phase _) rfl (by rintro ⟨⟩))

theorem stopAll_turning (l : LoopId) : Turning (stopAll l) := by
  refine .get_bind fun p => ?_
  cases hs : (p.loop l).driver.stopping with
  | true =>
    simp only [hs]
    exact .pure ()
  | false =>
    simp only [hs]
    refine .bind (fun q => .single (.stopping l)) fun _ => ?_
    refine .bind (Idle.forM fun x => cancelTask_idle _ x).turning fun _ q => ?_
    exact .single (.retask l Tracked.withdrawn fun _ => rfl)

theorem cancelOne_turning (l : LoopId) (id : TaskId) : Turning (cancelOne l id) := by
  refine .get_bind fun p => ?_
  split
  · exact .pure ()
  · refine .bind (cancelTask_idle _ _).turning fun _ q => .single (.retask l _ fun y => ?_)
    split <;> rfl

theorem drainOne_turns {p : Process} {l : LoopId} (h : (p.loop l).driver.phase = .draining) :
    p.Turns (drainOne l p).2 := by
  cases hr : (p.loop l).requests with
  | nil =>
    simp only [drainOne, run_get_bind, hr]
    exact setPhase_turns h rfl nofun nofun nofun
  | cons r rest =>
    simp only [drainOne, run_get_bind, hr, run_modify_bind]
    refine .head (.drain l h) ?_
    cases r with
    | schedule _ _ _ => exact .refl
    | cancel id => exact cancelOne_turning l id _
    | stop => exact stopAll_turning l _

theorem refuse_turns {p : Process} {l : LoopId} (coroutine : Handle) {i : PromiseId} (e : Error)
    (h : (p.loop l).driver.phase.promise? = some i) :
    p.Turns (refuse l coroutine i e p).2 :=
  .head (.reject l i e h) (tell_idle _ _ _).turns

theorem startNext_turns {p : Process} {l : LoopId} {coroutine : Handle}
    {token : Cancellation.Token} {i : PromiseId}
    (h : (p.loop l).driver.phase = .starting coroutine token i) :
    p.Turns (startNext l coroutine token i p).2 := by
  obtain ⟨-, he⟩ | ⟨-, q, came⟩ := startNext_cases p l coroutine token i
  · rw [he]
    exact refuse_turns coroutine .canceled (by rw [h]; rfl)
  · have counted : p.Idles { p with nextTask := p.nextTask + 1 } :=
      ⟨.refl _, rfl, rfl, rfl, rfl, rfl⟩
    have idles := counted.trans (ask_idle (driverThread l)
      (startTask (p.loop l).driver.bindings coroutine) _)
    have phase := (congrArg (·.driver.phase) (idles.loop l)).trans h
    obtain ⟨e, asked, he⟩ | ⟨task, done, asked, he⟩ := came <;>
      rw [asked] at idles phase <;> rw [he] <;> refine idles.turns.trans ?_
    · exact refuse_turns coroutine e (by rw [phase]; rfl)
    · exact setPhase_turns phase rfl nofun nofun nofun

theorem registerNext_turns {p : Process} {l : LoopId} {coroutine : Handle}
    {token : Cancellation.Token} {x : Tracked}
    (h : (p.loop l).driver.phase = .registering coroutine token x) :
    p.Turns (registerNext l coroutine token x p).2 := by
  have hr := registerCancel_turning (driverThread l) token ⟨l, x.id⟩ p
  have hq := registerCancel_driver (driverThread l) token ⟨l, x.id⟩ l p
  exact hr.trans (setPhase_turns ((congrArg Driver.phase hq).trans h) rfl nofun nofun nofun)

theorem acceptNext_turns {p : Process} {l : LoopId} {coroutine : Handle} {x : Tracked}
    (h : (p.loop l).driver.phase = .accepting coroutine x) :
    p.Turns (acceptNext l coroutine x p).2 := by
  have rest (awaited : Bool) : Turning (do
      if !awaited then cancelOne l x.id
      tell (driverThread l) coroutine.drop : Activity Unit) := by
    cases awaited with
    | true => exact (tell_idle _ _).turning
    | false => exact .bind (cancelOne_turning l x.id) fun _ => (tell_idle _ _).turning
  exact .head (.accept l x (by rw [h]; rfl)) (rest _ _)

theorem settleTask_turning (l : LoopId) (n : Nat) (x : Tracked) (o : Outcome) :
    Turning (settleTask l n x o) :=
  .bind (giveUp_idle _).turning fun _ => .bind (keepOutcome_idle _ _ o).turning fun _ =>
    .bind (.modify fun _ => .finish l n _) fun _ => (tell_idle _ _).turning

theorem concludeNext_turns {p : Process} {l : LoopId} {n : Nat}
    (h : (p.loop l).driver.phase = .concluding n) : p.Turns (concludeNext l n p).2 := by
  obtain ⟨-, he⟩ | ⟨x, -, came⟩ := concludeNext_cases p l n
  · rw [he]
    split
    · next hs =>
      refine setPhase_turns h rfl nofun nofun fun _ => ?_
      simpa using (Bool.and_eq_true_iff.mp hs).2
    · exact setPhase_turns h rfl nofun nofun nofun
  · have idles := ask_idle (driverThread l) x.outcome? p
    have phase := (congrArg (·.driver.phase) (idles.loop l)).trans h
    refine idles.turns.trans ?_
    obtain ⟨-, he⟩ | ⟨o, -, he⟩ := came <;> rw [he]
    · exact setPhase_turns phase rfl nofun nofun nofun
    · exact settleTask_turning l n x o _

/-- A driver that leaves closes the queue and lets go of everything first. -/
theorem leave_turns {p : Process} {l : LoopId} (h : (p.loop l).driver.phase = .closing) :
    p.Turns (leave l p).2 := by
  obtain ⟨hc, hl⟩ := close_turns (driverThread l) l .eventLoopClosed (.inl h)
  let b := ((close (driverThread l) l .eventLoopClosed p).2.loop l).driver.bindings
  have hq := tell_idle (driverThread l) (do
    b.object.drop
    b.runForever.drop
    b.ensureFuture.drop
    b.stopOnDone.drop
    Op.release) (close (driverThread l) l .eventLoopClosed p).2
  refine (hc.trans hq.turns).trans (.single (.exit l ?_ ?_ ?_))
  · rw [hq.loop, hl, h]
  · rw [hq.loop, hl]
  · rw [hq.loop, hl]

/-- A move of a driver is a sequence of changes. -/
theorem step_turning (l : LoopId) : Turning (step l) := by
  intro p
  simp only [step, run_get_bind]
  cases h : (p.loop l).driver.phase with
  | entering => exact enterLoop_turns h
  | looping => exact beginIteration_turns h
  | iterating n =>
    cases n with
    | zero => exact endIteration_turns h
    | succ n => exact runNext_turns h
  | draining => exact drainOne_turns h
  | starting _ _ _ => exact startNext_turns h
  | registering _ _ _ => exact registerNext_turns h
  | accepting _ _ => exact acceptNext_turns h
  | concluding next => exact concludeNext_turns h
  | closing => exact leave_turns h
  | exited => exact .refl

/-! ## What the host does to a loop -/

/-- What making the request for an object comes to: the object is asked whether it can be awaited,
for its name if it cannot, and for one more reference if it can. -/
inductive Prepares (t : ThreadId) (l : LoopId) (awaitable : Handle) (token : Cancellation.Token)
    (p : Process) : Except Error (Request × PromiseId) × Process → Prop
  | disposed (h : (p.loop l).disposed = true) :
      Prepares t l awaitable token p (.error .eventLoopDisposed, p)
  | unasked {e : Error} {q : Process}
      (asked : ask t (awaitable.hasAttr "__await__") p = (.error e, q)) :
      Prepares t l awaitable token p (.error e, q)
  | refused {name : String} {q r : Process}
      (asked : ask t (awaitable.hasAttr "__await__") p = (.ok false, q))
      (named : ask t (Op.orElse unknownType awaitable.typeName) q = (.ok name, r)) :
      Prepares t l awaitable token p (.error (.notAwaitable name), r)
  | unnamed {e : Error} {q r : Process}
      (asked : ask t (awaitable.hasAttr "__await__") p = (.ok false, q))
      (named : ask t (Op.orElse unknownType awaitable.typeName) q = (.error e, r)) :
      Prepares t l awaitable token p (.error e, r)
  | uncloned {e : Error} {q r : Process}
      (asked : ask t (awaitable.hasAttr "__await__") p = (.ok true, q))
      (cloned : ask t awaitable.clone q = (.error e, r)) :
      Prepares t l awaitable token p (.error e, r)
  | made {coroutine : Handle} {q r : Process}
      (asked : ask t (awaitable.hasAttr "__await__") p = (.ok true, q))
      (cloned : ask t awaitable.clone q = (.ok coroutine, r)) :
      Prepares t l awaitable token p (.ok (.schedule coroutine token r.promises.size, r.promises.size),
        { r with promises := r.promises.push ⟨.submitted, true⟩ })

theorem prepare_prepares (t : ThreadId) (l : LoopId) (awaitable : Handle)
    (token : Cancellation.Token) (p : Process) :
    Prepares t l awaitable token p (prepare t l awaitable token p) := by
  cases hd : (p.loop l).disposed with
  | true =>
    simp only [prepare, run_get_bind, hd, if_true]
    exact .disposed hd
  | false =>
    simp only [prepare, run_get_bind, hd, Bool.false_eq_true, if_false]
    rw [run_bind]
    rcases asked : ask t (awaitable.hasAttr "__await__") p with ⟨e | (_ | _), q⟩ <;> dsimp only
    · exact .unasked asked
    · rw [run_bind]
      rcases named : ask t (Op.orElse unknownType awaitable.typeName) q with ⟨e | name, r⟩
      · exact .unnamed asked named
      · exact .refused asked named
    · rw [run_bind]
      rcases cloned : ask t awaitable.clone q with ⟨e | coroutine, r⟩
      · exact .uncloned asked cloned
      · exact .made asked cloned

theorem prepare_of_asked {t : ThreadId} {l : LoopId} {awaitable coroutine : Handle}
    {token : Cancellation.Token} {p q r : Process} (opened : (p.loop l).disposed = false)
    (asked : ask t (awaitable.hasAttr "__await__") p = (.ok true, q))
    (cloned : ask t awaitable.clone q = (.ok coroutine, r)) : prepare t l awaitable token p =
      (.ok (.schedule coroutine token r.promises.size, r.promises.size),
        { r with promises := r.promises.push ⟨.submitted, true⟩ }) := by
  simp only [prepare, run_get_bind, opened, Bool.false_eq_true, if_false]
  rw [run_bind, asked]
  dsimp only
  rw [run_bind, cloned]
  rfl

theorem abandon_turning (t : ThreadId) (i : PromiseId) : Turning (abandon t i) := by
  refine .bind (.modify fun p => .abandon i) fun _ => .get_bind fun p => ?_
  split
  · exact (tell_idle t _).turning
  · exact .pure ()

/-- A change that belongs to the owners of a loop. -/
theorem modifyLoop_turning (l : LoopId) {f : EventLoop → EventLoop}
    (h : ∀ x, (f x).environment = x.environment ∧ (f x).requests = x.requests ∧
      (f x).notifier = x.notifier ∧ (f x).driver = x.driver) : Turning (modifyLoop l f) :=
  fun _ => .single (.owners l f h)

theorem setLimit_turning (l : LoopId) (limit : Duration) : Turning (setLimit l limit) :=
  modifyLoop_turning l fun _ => ⟨rfl, rfl, rfl, rfl⟩

theorem share_turning (l : LoopId) : Turning (share l) :=
  modifyLoop_turning l fun _ => ⟨rfl, rfl, rfl, rfl⟩

theorem disown_turning (l : LoopId) : Turning (disown l) :=
  .bind (modifyLoop_turning l fun _ => ⟨rfl, rfl, rfl, rfl⟩) fun _ => .get_bind fun _ => .pure _

theorem markDisposed_turning (l : LoopId) : Turning (markDisposed l) := by
  refine .get_bind fun p => ?_
  split
  · exact .pure false
  · exact .bind (modifyLoop_turning l fun _ => ⟨rfl, rfl, rfl, rfl⟩) fun _ => .pure _

theorem openLoop_turning (t : ThreadId) (e : EnvironmentId) : Turning (openLoop t e) := by
  intro p
  cases hb : (p.environment e).bindings with
  | none =>
    simp only [openLoop, run_get_bind, hb]
    exact .refl
  | some b =>
    simp only [openLoop, run_get_bind, hb]
    rw [run_bind]
    generalize hq : ask t (loopObjects b) p = q
    have pq : p.Idles q.2 := hq ▸ ask_idle t _ p
    refine pq.turns.trans ?_
    obtain ⟨error | ⟨object, notifier, bindings⟩, q⟩ := q
    · exact .refl
    · refine .head (.addLoop _ ?_ rfl rfl rfl rfl) (tell_idle _ _ _).turns
      show (q.environment e).bindings.isSome = true
      rw [pq.environment, hb]
      rfl

theorem defaultLoop_turning (t : ThreadId) (e : EnvironmentId) : Turning (defaultLoop t e) := by
  refine .get_bind fun p => ?_
  split
  · exact .pure _
  · refine .bind (openLoop_turning t e) fun opened => ?_
    cases opened with
    | error _ => exact .pure _
    | ok l => exact .bind (.modify fun p => .defaultLoop e l) fun _ => .pure _

theorem endDispose_turning (t : ThreadId) (l : LoopId) : Turning (endDispose t l) := by
  intro p
  by_cases h : (p.loop l).driver.phase = .exited
  · simp only [endDispose, run_get_bind, if_pos h]
    exact (close_turns t l .eventLoopClosed (.inr h)).1.trans (ask_idle t _ _).turns
  · simp only [endDispose, run_get_bind, if_neg h]
    exact (Turning.bind (note_idle _).turning fun _ => .pure _) p

end Bridge

end EmbeddedPython
