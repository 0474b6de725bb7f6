import EmbeddedPython.Proofs.Bridge.Ending
import EmbeddedPython.Proofs.Bridge.Scheduling
import EmbeddedPython.Proofs.Environment.Iterating
import EmbeddedPython.Proofs.Environment.Waking

/-
  Iterations over a generator

  A generator is asked for an item by a step that a thread submits to a loop.
  The driver starts a task for the step, the loop runs the body inside the task
  until the body comes to something, and the driver looks at the task. `Moves`
  says what each of these does in a run in which nothing else touches what takes
  part, and `Stand.Holds` what the memory is like in between, which every move
  keeps.
-/

namespace EmbeddedPython

open Activity Bridge Op

/-! ## Iterations -/

/-- How far an iteration over a generator is. -/
inductive Stand where
  /-- the generator can be asked for an item -/
  | rests (frames : List Frame)
  /-- a step is submitted, with the promise of the item -/
  | asked (i : PromiseId) (step : Ref) (frames : List Frame)
  /-- the task of the step has been started -/
  | begins (i : PromiseId) (x : Errand) (frames : List Frame)
  /-- the body waits for something -/
  | waits (i : PromiseId) (x : Errand) (frames : List Frame)
  /-- the body has come to something -/
  | came (i : PromiseId) (x : Errand) (halt : Halt) (t : Turnout)
  /-- the body has ended, and the caller knows -/
  | ended

namespace Stand

/-- Whether the caller knows that the body has ended. -/
def isOver : Stand → Bool
  | ended => true
  | _ => false

/-- What the memory is like. -/
def Holds (g : Ref) (m : Memory) : Stand → Prop
  | rests frames => Bodied frames ∧ Rests g frames m
  | asked _ step frames => Bodied frames ∧ Rests g frames m ∧ m.IsStep step g
  | begins _ x frames => x.generator = g ∧ Bodied frames ∧ x.Asks frames m
  | waits _ x frames => x.generator = g ∧ Bodied frames ∧ x.Waits frames m
  | came _ x halt t => x.generator = g ∧ (∃ k, halt.Stays k ∧ halt.Comes k t) ∧ x.Finished halt t m
  | ended => True

/-- Whether what takes part in the iteration is left alone. -/
def Spared (g : Ref) (m n : Memory) : Stand → Prop
  | rests _ => n.valueOf g = m.valueOf g
  | asked _ step _ => n.valueOf g = m.valueOf g ∧ n.object step = m.object step
  | begins _ x _ | waits _ x _ => x.Leaves m n
  | came _ x _ t => x.Leaves m n ∧ (t = .ends → ∀ f e, m.valueOf x.task = .future f →
      f.outcome = .failed e → n.object e = m.object e)
  | ended => True

variable {g : Ref} {m n : Memory}

theorem Holds.spared {stand : Stand} (h : stand.Holds g m) (spared : stand.Spared g m n) :
    stand.Holds g n := by
  cases stand with
  | rests frames =>
    obtain ⟨bodied, phase, idle, rests⟩ := h
    exact ⟨bodied, phase, idle, spared.trans rests⟩
  | asked i step frames =>
    obtain ⟨bodied, ⟨phase, idle, rests⟩, made⟩ := h
    exact ⟨bodied, ⟨phase, idle, spared.1.trans rests⟩, made.of_object spared.2⟩
  | begins i x frames =>
    obtain ⟨same, bodied, asks⟩ := h
    exact ⟨same, bodied, asks.leaves spared⟩
  | waits i x frames =>
    obtain ⟨same, bodied, waits⟩ := h
    exact ⟨same, bodied, waits.leaves spared⟩
  | came i x halt t =>
    obtain ⟨same, comes, ⟨f, future, returned⟩, rests⟩ := h
    obtain ⟨leaves, kept⟩ := spared
    obtain ⟨f', future', -, outcome, -⟩ := leaves.task f future
    refine ⟨same, comes, ⟨f', future', ?_⟩, fun item frames yields => ?_⟩
    · rw [outcome]
      generalize ho : f.outcome = o at returned
      cases returned with
      | @ends e stop => exact .ends ((kept rfl f e future ho).trans stop)
      | _ => constructor
    · obtain ⟨phase, idle, rests⟩ := rests item frames yields
      exact ⟨phase, idle, leaves.generator.trans rests⟩
  | ended => trivial

end Stand

/-- A step can be submitted to a loop that is not disposed of, which makes the promise of what comes
of it. -/
theorem Bridge.prepare_step {p : Process} (t : ThreadId) (l : LoopId) (token : Cancellation.Token)
    {awaitable : Handle} {g : Ref} (alive : p.host.lock.alive = true)
    (opened : (p.loop l).disposed = false) (live : awaitable.disposed = false)
    (step : p.host.memory.IsStep awaitable.ref g) : ∃ k : Host,
      prepare t l awaitable token p =
        (.ok (.schedule (Handle.adopt awaitable.ref) token p.promises.size, p.promises.size),
          { p with host := k, promises := p.promises.push ⟨.submitted, true⟩ }) ∧
      p.host.memory.Adds k.memory ∧ k.lock.alive = true := by
  obtain ⟨m, awaits, adds⟩ := step.awaited live
  obtain ⟨k, asked, rfl, alive'⟩ := System.ask_returns t awaits alive
  obtain ⟨i, cloned, same, alive''⟩ := System.ask_returns (p := { p with host := k }) t
    (Handle.clone_returns live k.memory) alive'
  exact ⟨i, prepare_of_asked opened asked cloned, same ▸ adds, alive''⟩

namespace System

variable {s : System} {l : LoopId}

/-- The memory of the interpreter. -/
def memory (s : System) : Memory := s.process.host.memory

/-- What the interpreter has been asked for and has returned is all that is done to the memory. -/
theorem ask_returned {refs : List Ref} {body : Eval Unit} {t : ThreadId} {p q : Process}
    (asked : Activity.ask t (Op.ask refs body) p = (.ok (), q)) :
    body.run p.host.memory = (.ok (), q.host.memory) := by
  obtain ⟨r, k, entered, answered⟩ := Op.bind_ok (ask_ok asked)
  cases r with
  | none =>
    obtain ⟨e, i, -, failed⟩ := Op.bind_ok answered
    cases failed
  | some u =>
    obtain ⟨-, rfl⟩ := Op.pure_ok answered
    exact Op.enter_ok entered

/-- Whether a driver runs an entry of the ready queue of its loop and goes on; `m` is the memory in
which the entry is run. -/
structure RunsEntry (s : System) (l : LoopId) (entry : Scheduled) (m : Memory) : Prop where
  phase : ∃ left, (s.process.loop l).driver.phase = .iterating (left + 1) ∧
    ((s.step (.drive l)).process.loop l).driver.phase = .iterating left
  ready : ∃ y rest, s.memory.valueOf (s.process.loopOf l) = .loop y ∧ y.ready = entry :: rest ∧
    m = s.memory.setValue (s.process.loopOf l) (.loop { y with ready := rest })

/-- A driver that runs an entry does nothing else to the memory. -/
theorem RunsEntry.runs {entry : Scheduled} {m : Memory} (h : s.RunsEntry l entry m) :
    (s.step (.drive l)).memory = ((Eval.runReady Machine.top (s.process.loopOf l) entry).run m).2 := by
  obtain ⟨⟨left, phase, next⟩, y, rest, value, ready, rfl⟩ := h
  have hl : l < s.process.loops.size := Process.lt_size_of_phase (by simp [phase])
  have here := pythonLoop?_eq_some.mpr value
  simp only [memory]
  rw [step_drive, step_iterating_succ phase] at next ⊢
  obtain ⟨idle, -⟩ | ⟨x, first, others, there, ready', q, came⟩ := runNext_cases s.process l left
  · exact nomatch ready.symm.trans (idle y here)
  cases here.symm.trans there
  cases ready.symm.trans ready'
  obtain ⟨ran, he⟩ | ⟨e, ran, he⟩ := came <;> rw [he] at next ⊢
  · have same := ask_returned ran
    rw [changePythonLoop_memory value] at same
    exact (congrArg Prod.snd same).symm
  · -- a driver whose loop fails closes its queue
    have size := congrArg Array.size (ran_loops s.process l entry rest)
    rw [ran] at size
    rw [failAll_phase (by rw [Process.changePythonLoop_loops, size]; exact hl)] at next
    cases next

/-- How a body that has come to something is served on: what it waits for is waited for, or its task
is done. -/
inductive Serves (i : PromiseId) (x : Errand) (before : Option Ref) (k : Memory) :
    Halt → Stand → Prop
  | waits {r : Ref} {left : List Frame} (handed : x.Handed (x.paused before k left) r) :
      Serves i x before k (.waits r left) (.waits i x left)
  | comes {halt : Halt} {t : Turnout} (comes : halt.Comes k t) :
      Serves i x before k halt (.came i x halt t)

/-- What an action does for an iteration over a generator on a loop, and what a caller has been told
then. -/
inductive Moves (l : LoopId) (g : Ref) (s : System) :
    Action → Stand → Stand → List (PromiseId × Turnout) → Prop
  /-- something else happens -/
  | aside {a : Action} {stand : Stand} (spared : stand.Spared g s.memory (s.step a).memory) :
      Moves l g s a stand stand []
  /-- a step of the generator is submitted -/
  | asks {t : ThreadId} {awaitable : Handle} {token : Cancellation.Token} {frames : List Frame}
      (alive : s.process.host.lock.alive = true) (opened : (s.process.loop l).disposed = false)
      (live : awaitable.disposed = false) (step : s.memory.IsStep awaitable.ref g) :
      Moves l g s (.submit t l awaitable token) (.rests frames)
        (.asked s.process.promises.size awaitable.ref frames) []
  /-- the driver starts a task for it -/
  | starts {step : Ref} {token : Cancellation.Token} {i : PromiseId} {y : Tracked} {x : Errand}
      {f : Future} {task : Task} {frames : List Frame}
      (phase : (s.process.loop l).driver.phase = .starting (Handle.adopt step) token i)
      (ready : (s.process.loop l).driver.bindings.Ready s.memory)
      (next : ((s.step (.drive l)).process.loop l).driver.phase =
        .registering (Handle.adopt step) token y)
      (future : (s.step (.drive l)).memory.valueOf y.task.ref = .future f)
      (runs : f.task = some task)
      (errand : x = ⟨g, step, task.coroutine, y.task.ref, s.process.loopOf l⟩) :
      Moves l g s (.drive l) (.asked i step frames) (.begins i x frames) []
  /-- the loop makes the first step of the task -/
  | begins {m k : Memory} {i : PromiseId} {x : Errand} {frames : List Frame} {halt : Halt}
      {next : Stand} (loop : s.process.loopOf l = x.loop)
      (runs : s.RunsEntry l (.step x.task none) m)
      (goes : Goes x.Leaves (some x.task) frames .goOn (x.opened (m.inLoop x.loop)) halt k)
      (serves : Serves i x m.currentTask k halt next) :
      Moves l g s (.drive l) (.begins i x frames) next []
  /-- the loop makes a later one -/
  | resumes {m n k : Memory} {i : PromiseId} {x : Errand} {frames : List Frame} {halt : Halt}
      {next : Stand} {entry : Scheduled} {e : Option Ref} (loop : s.process.loopOf l = x.loop)
      (runs : s.RunsEntry l entry m) (resumes : x.Resumes (m.inLoop x.loop) entry e n)
      (goes : Goes x.Leaves (some x.task) frames (Eval.arrivalOf (Eval.resumptionOf e))
        (x.resumed n) halt k) (serves : Serves i x n.currentTask k halt next) :
      Moves l g s (.drive l) (.waits i x frames) next []
  /-- the driver looks at the task, whose caller waits, when the body has yielded an item -/
  | yields {n : Nat} {y : Tracked} {f : Future} {x : Errand} {item : Ref} {frames : List Frame}
      {t : Turnout} (phase : (s.process.loop l).driver.phase = .concluding n)
      (here : (s.process.loop l).driver.tasks[n]? = some y) (task : y.task.ref = x.task)
      (awaited : (s.process.promise y.promise).awaited = true)
      (future : s.memory.GenuineFuture x.task f) :
      Moves l g s (.drive l) (.came y.promise x (.yields item frames) t) (.rests frames)
        [(y.promise, t)]
  /-- or has ended -/
  | ends {n : Nat} {y : Tracked} {f : Future} {x : Errand} {c : Completion} {t : Turnout}
      (phase : (s.process.loop l).driver.phase = .concluding n)
      (here : (s.process.loop l).driver.tasks[n]? = some y) (task : y.task.ref = x.task)
      (awaited : (s.process.promise y.promise).awaited = true)
      (future : s.memory.GenuineFuture x.task f) :
      Moves l g s (.drive l) (.came y.promise x (.ends c) t) .ended [(y.promise, t)]

/-- How far a run has come with an iteration over a generator, and what callers have been told. -/
inductive Iterates (attached : Bool) (l : LoopId) (g : Ref) :
    List Action → Stand → List (PromiseId × Turnout) → Prop
  | rests {actions : List Action} {frames : List Frame} (bodied : Bodied frames)
      (rests : Rests g frames (run attached actions).memory) :
      Iterates attached l g actions (.rests frames) []
  | step {actions : List Action} {a : Action} {stand next : Stand}
      {turns more : List (PromiseId × Turnout)} (before : Iterates attached l g actions stand turns)
      (moves : Moves l g (run attached actions) a stand next more) :
      Iterates attached l g (actions ++ [a]) next (turns ++ more)

variable {g : Ref} {a : Action} {stand next : Stand} {more : List (PromiseId × Turnout)}

theorem Serves.holds {i : PromiseId} {x : Errand} {before : Option Ref} {k n : Memory} {halt : Halt}
    (h : Serves i x before k halt next) (generator : x.generator = g) (stays : halt.Stays k)
    (steps : x.Steps before halt k n) : next.Holds g n := by
  cases h with
  | waits handed => exact ⟨generator, stays, steps.waits _ _ rfl handed⟩
  | comes comes => exact ⟨generator, ⟨k, stays, comes⟩, steps.comes _ comes⟩

theorem RunsEntry.alters {entry : Scheduled} {m : Memory} (h : s.RunsEntry l entry m) :
    Memory.Alters [] s.memory m := by
  obtain ⟨-, y, rest, value, ready, rfl⟩ := h
  have set := Memory.Alters.setValue s.memory (s.process.loopOf l) (.loop { y with ready := rest })
  refine ⟨set.has, fun {r} hr _ unlooped => set.object hr (fun mem => ?_) unlooped⟩
  exact unlooped ⟨y, List.mem_singleton.mp mem ▸ value⟩

/-- A step that is submitted is taken by the interpreter. -/
theorem submit_step (t : ThreadId) {awaitable : Handle} (token : Cancellation.Token)
    (alive : s.process.host.lock.alive = true) (opened : (s.process.loop l).disposed = false)
    (live : awaitable.disposed = false) (step : s.memory.IsStep awaitable.ref g) :
    s.memory.Adds (s.step (.submit t l awaitable token)).memory := by
  obtain ⟨k, prepared, adds, -⟩ := Bridge.prepare_step t l token alive opened live step
  have after : (s.step (.submit t l awaitable token)).memory = k.memory := by
    show (Action.run (.submit t l awaitable token) s.process).2.host.memory = _
    rw [Action.run, run_bind, prepared]
    rfl
  rw [after]
  exact adds

/-- A driver that looks at a task that has returned something only makes objects. -/
theorem concluded_adds (sound : s.Sound) {n : Nat} {y : Tracked} {f : Future} {item : Ref}
    (phase : (s.process.loop l).driver.phase = .concluding n)
    (here : (s.process.loop l).driver.tasks[n]? = some y)
    (awaited : (s.process.promise y.promise).awaited = true) (askable : y.Askable s.memory)
    (future : s.memory.GenuineFuture y.task.ref f) (returned : f.outcome = .result item) :
    s.memory.Adds (s.step (.drive l)).memory := by
  have alive := sound.alive fun he => nomatch phase.symm.trans he
  obtain ⟨m, adds, returns⟩ :=
    Tracked.outcome?_result askable.live askable.answers future returned
  obtain ⟨k, performed, same⟩ := returns (Process.driverThread l) s.process.host alive rfl
  have asked : Activity.ask (Process.driverThread l) y.outcome? s.process =
      (.ok (some (.ok (Handle.adopt item))), { s.process with host := k }) := by
    simp only [Activity.ask, performed]
  have kept : (keepOutcome (Process.driverThread l) y.promise (.ok (Handle.adopt item))
      (giveUp y.registration { s.process with host := k }).2) =
        (.ok (Handle.adopt item), (giveUp y.registration { s.process with host := k }).2) := by
    have waits : ((giveUp y.registration { s.process with host := k }).2.promise y.promise).awaited =
        true := by
      rw [(giveUp_idle _ _).promise]
      exact awaited
    simp only [keepOutcome, run_get_bind, waits]
    rfl
  obtain ⟨j, dropped, unchanged⟩ := y.drop_returns k.memory (Process.driverThread l) k
    (by have := alive_perform y.outcome? (Process.driverThread l) alive; rwa [performed] at this) rfl
  have dropped' (q : Process) (hq : q.host = k) :
      (tell (Process.driverThread l) y.drop q).2.host.memory = m := by
    rw [tell_host, hq, dropped, ← same, ← unchanged]
  have same' : (s.step (.drive l)).memory = m := by
    have answered : s.process.answer? l y = some (.ok (Handle.adopt item)) := by
      rw [Process.answer?, asked]
    simp only [memory]
    rw [step_drive, step_concluding phase, concludeNext_of_answer here answered, asked, settleTask,
      run_bind, run_bind, kept, run_modify_bind]
    exact dropped' _ (by rw [Process.finish_host, giveUp_host])
  rw [same']
  exact adds

/-- What an action does for an iteration it does to the memory. -/
theorem Moves.holds (moves : Moves l g s a stand next more) (sound : s.Sound)
    (askable : ∀ l, ∀ x ∈ (s.board.desk l).live, x.Askable s.memory)
    (holds : stand.Holds g s.memory) : next.Holds g (s.step a).memory := by
  cases moves with
  | aside spared => exact holds.spared spared
  | @asks t awaitable token frames alive opened live step =>
    obtain ⟨bodied, phase, idle, rests⟩ := holds
    have adds := submit_step t token alive opened live step
    exact ⟨bodied, ⟨phase, idle, adds.valueOf rests nofun⟩, step.adds adds⟩
  | @starts step token i y x f task frames phase ready next future runs errand =>
    obtain ⟨bodied, rests, made⟩ := holds
    have alive := sound.alive fun he => nomatch phase.symm.trans he
    obtain ⟨coroutine, t, d, n, returns, asks⟩ := startTask_returns (c := Handle.adopt step) ready rfl made rests
    obtain ⟨-, started⟩ := starts_setUp phase next
    obtain ⟨k, started', same⟩ := returns (Process.driverThread l) s.process.host alive rfl
    obtain ⟨tasks, hosts⟩ := Prod.mk.inj (started.symm.trans started')
    obtain ⟨hy, -⟩ := Prod.mk.inj (Except.ok.inj tasks)
    have memory : (s.step (.drive l)).memory = n := (congrArg Host.memory hosts).trans same
    rw [memory] at future ⊢
    obtain ⟨callbacks, removed, waits, value⟩ := asks.task
    have ref : y.task.ref = t := congrArg Handle.ref hy
    rw [ref] at future errand
    cases future.symm.trans value
    cases runs
    subst errand
    exact ⟨rfl, bodied, asks⟩
  | begins loop runs goes serves =>
    obtain ⟨generator, bodied, asks⟩ := holds
    have ⟨phase, idle, resting⟩ := asks.generator
    have asks := asks.leaves (asks.toPending.spared resting asks.coroutine runs.alters)
    have steps := asks.runs bodied goes
    rw [← loop, ← runs.runs] at steps
    exact serves.holds generator (goes.bodied bodied) steps
  | resumes loop runs resumes goes serves =>
    obtain ⟨generator, bodied, waits⟩ := holds
    have waits := waits.leaves (waits.toPending.spared waits.generator waits.coroutine runs.alters)
    have steps := waits.runs bodied resumes goes
    rw [← loop, ← runs.runs] at steps
    exact serves.holds generator (goes.bodied bodied) steps
  | @yields n y f x item frames t phase here task awaited future =>
    obtain ⟨rfl, ⟨k, stays, comes⟩, ⟨f', value, returned⟩, rests⟩ := holds
    obtain rfl : f = f' := Value.future.inj (future.value.symm.trans value)
    obtain ⟨phase', idle, rests⟩ := rests item frames rfl
    have askable := askable l y (List.mem_append_left _ (List.mem_of_getElem? here))
    have result : f.outcome = .result item := by
      cases comes
      generalize f.outcome = o at returned
      cases returned
      rfl
    have adds := concluded_adds sound phase here awaited askable (task ▸ future) result
    exact ⟨stays, phase', idle, adds.valueOf rests nofun⟩
  | ends => trivial

/-- In every run an iteration stands as it is said to. -/
theorem Iterates.holds {attached : Bool} {actions : List Action} {turns : List (PromiseId × Turnout)}
    (h : Iterates attached l g actions stand turns) : stand.Holds g (run attached actions).memory := by
  induction h with
  | rests bodied rests => exact ⟨bodied, rests⟩
  | @step actions a stand next turns more before moves ih =>
    rw [run_append attached actions [a]]
    exact moves.holds (sound_run attached actions) (askable_run attached actions) ih

end System

/-! ## What callers are told -/

/-- What a driver tells of what the body has come to. -/
inductive Turnout.Tells (s : System) (l : LoopId) : Turnout → Bridge.Outcome → Prop
  /-- the very object that the body has yielded -/
  | yields (item : Ref) : Turnout.Tells s l (.yields item) (.ok (Handle.adopt item))
  /-- the end of the iteration -/
  | ends : Turnout.Tells s l .ends (.error (.python PythonError.end))
  /-- the exception, translated, under the name of its class -/
  | raises {e : Ref} {err : PythonError}
      (translated : e ≠ Ref.none → ∃ k, s.process.host.Becomes k ∧
        ((PythonError.ofException (Handle.adopt e)).perform (Process.driverThread l) k).1 = .ok err)
      (named : s.memory.isException e .baseException = true → ∀ name,
        s.memory.GoesBy (s.memory.classOf e) name → err.typeName = name) :
      Turnout.Tells s l (.raises e) (.error (.python err))
  /-- translating it uses up the stack -/
  | spent (e : Ref) : Turnout.Tells s l (.raises e) (.error .eventLoopClosed)
  | cancels : Turnout.Tells s l .cancels (.error .canceled)

namespace System

variable {s : System} {l : LoopId} {g : Ref} {a : Action} {stand next : Stand}
  {more : List (PromiseId × Turnout)}

/-- The caller of a step is told what the body has come to as soon as the driver looks at the task. -/
theorem learns_of_returned (sound : s.Sound) {n : Nat} {y : Tracked} {f : Future} {t : Turnout}
    (phase : (s.process.loop l).driver.phase = .concluding n)
    (here : (s.process.loop l).driver.tasks[n]? = some y)
    (awaited : (s.process.promise y.promise).awaited = true) (askable : y.Askable s.memory)
    (future : s.memory.GenuineFuture y.task.ref f) (returned : Errand.Returned s.memory t f.outcome) :
    ∃ o, s.Learns (.drive l) y.promise o ∧ t.Tells s l o := by
  have told := learnsFrom sound phase here awaited askable future
  generalize hf : f.outcome = o at returned
  cases returned with
  | yields item => exact ⟨_, (told.returned _).mpr ⟨item, hf, rfl⟩, .yields item⟩
  | cancels => exact ⟨_, told.cancelled.mpr hf, .cancels⟩
  | @ends e stop =>
    have alive := sound.alive fun he => nomatch phase.symm.trans he
    have ended := Tracked.outcome?_ended askable.live askable.answers future hf stop
      (Process.driverThread l) alive rfl
    refine ⟨_, (learns_iff sound phase here awaited _).mpr ?_, .ends⟩
    rw [Tracked.reports_iff, ended]
    rfl
  | raises e =>
    rcases told.translated e hf with ⟨err, learns⟩ | spent
    · obtain ⟨r, hr, translated⟩ := told.raised err learns
      obtain rfl : e = r := FutureOutcome.failed.inj (hf.symm.trans hr)
      refine ⟨_, learns, .raises translated fun exception name named => ?_⟩
      obtain ⟨o, only, what⟩ :=
        learns_name sound phase here awaited askable future hf exception named
      rcases what with ⟨err', rfl, typed⟩ | ⟨rfl, -⟩
      · cases (only _).mp learns
        exact typed
      · cases (only _).mp learns
    · refine ⟨_, (learns_iff sound phase here awaited _).mpr ?_, .spent e⟩
      rw [Tracked.reports_iff, spent]
      rfl

/-- Whoever is told something by a move is told what the body has come to. -/
theorem Moves.learns (moves : Moves l g s a stand next more) (sound : s.Sound)
    (askable : ∀ l, ∀ x ∈ (s.board.desk l).live, x.Askable s.memory)
    (holds : stand.Holds g s.memory) :
    ∀ turn ∈ more, ∃ o, s.Learns a turn.1 o ∧ turn.2.Tells s l o := by
  have looks {n : Nat} {y : Tracked} {f : Future} {x : Errand} {halt : Halt} {t : Turnout}
      (phase : (s.process.loop l).driver.phase = .concluding n)
      (here : (s.process.loop l).driver.tasks[n]? = some y) (task : y.task.ref = x.task)
      (awaited : (s.process.promise y.promise).awaited = true)
      (future : s.memory.GenuineFuture x.task f)
      (holds : (Stand.came y.promise x halt t).Holds g s.memory) :
      ∀ turn ∈ [(y.promise, t)], ∃ o, s.Learns (.drive l) turn.1 o ∧ turn.2.Tells s l o := by
    rintro turn mem
    obtain rfl := List.mem_singleton.mp mem
    obtain ⟨-, -, ⟨f', value, returned⟩, -⟩ := holds
    obtain rfl : f = f' := Value.future.inj (future.value.symm.trans value)
    exact learns_of_returned sound phase here awaited
      (askable l y (List.mem_append_left _ (List.mem_of_getElem? here))) (task ▸ future) returned
  cases moves with
  | yields phase here task awaited future => exact looks phase here task awaited future holds
  | ends phase here task awaited future => exact looks phase here task awaited future holds
  | _ => exact fun turn mem => absurd mem List.not_mem_nil

/-- Every caller has been told what the body has come to, and will not be told anything else. -/
theorem Iterates.told {attached : Bool} {actions : List Action} {turns : List (PromiseId × Turnout)}
    (h : Iterates attached l g actions stand turns) : ∀ turn ∈ turns, ∃ before after o,
      actions = before ++ after ∧ turn.2.Tells (run attached before) l o ∧ ∀ later,
        ((run attached (actions ++ later)).process.promise turn.1).stage = .settled o := by
  induction h with
  | rests => exact fun turn mem => absurd mem List.not_mem_nil
  | @step actions a stand next turns more before moves ih =>
    intro turn mem
    rcases List.mem_append.mp mem with old | new
    · obtain ⟨first, after, o, same, tells, settled⟩ := ih turn old
      refine ⟨first, after ++ [a], o, by rw [same, List.append_assoc], tells, fun later => ?_⟩
      rw [List.append_assoc]
      exact settled _
    · obtain ⟨o, learns, tells⟩ := moves.learns (sound_run attached actions)
        (askable_run attached actions) before.holds turn new
      refine ⟨actions, [a], o, rfl, tells, fun later => settled_run attached _ later ?_⟩
      rw [run_append attached actions [a]]
      exact learns.2

/-- Items are told until the body comes to something else, and nothing is told after that. -/
theorem Iterates.turns {attached : Bool} {actions : List Action} {turns : List (PromiseId × Turnout)}
    (h : Iterates attached l g actions stand turns) : ∃ items : List Ref,
      (stand.isOver = false ∧ turns.map Prod.snd = items.map .yields) ∨
      ∃ t : Turnout, stand = .ended ∧ (∀ item, t ≠ .yields item) ∧
        turns.map Prod.snd = items.map .yields ++ [t] := by
  induction h with
  | rests => exact ⟨[], .inl ⟨rfl, rfl⟩⟩
  | @step actions a stand next turns more before moves ih =>
    have holds := before.holds
    obtain ⟨items, ⟨goes, same⟩ | ⟨t, rfl, other, same⟩⟩ := ih
    · rw [List.map_append, same]
      cases moves with
      | aside => exact ⟨items, .inl ⟨goes, List.append_nil _⟩⟩
      | asks | starts => exact ⟨items, .inl ⟨rfl, List.append_nil _⟩⟩
      | begins _ _ _ serves | resumes _ _ _ _ serves =>
        refine ⟨items, .inl ⟨?_, List.append_nil _⟩⟩
        cases serves <;> rfl
      | @yields n y f x item frames t =>
        obtain ⟨-, ⟨k, -, comes⟩, -⟩ := holds
        cases comes
        exact ⟨items ++ [item], .inl ⟨rfl, by rw [List.map_append]; rfl⟩⟩
      | @ends n y f x c t =>
        obtain ⟨-, ⟨k, -, comes⟩, -⟩ := holds
        refine ⟨items, .inr ⟨t, rfl, ?_, rfl⟩⟩
        cases comes <;> exact fun item same => Turnout.noConfusion same
    · cases moves with
      | aside =>
        refine ⟨items, .inr ⟨t, rfl, other, ?_⟩⟩
        rw [List.append_nil]
        exact same

end System

end EmbeddedPython
