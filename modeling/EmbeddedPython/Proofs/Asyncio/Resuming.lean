import EmbeddedPython.Proofs.Asyncio.Yielding
import EmbeddedPython.Asyncio.Task
import EmbeddedPython.Proofs.Asyncio.Notice

namespace EmbeddedPython

open Eval

namespace Memory

variable {m : Memory} {r s : Ref} {v : Value}

theorem valueOf_assign_of_ne (h : s ≠ r) (v : Value) : (m.assign r v).valueOf s = m.valueOf s := by
  rw [assign]
  split
  · rfl
  · exact valueOf_setValue_of_ne h v

/-- A value that may be replaced is replaced, unless it is that of a static object. -/
theorem assign_self {v w : Value} (h : m.valueOf r = v) (plain : v ≠ .plain)
    (free : (v.isFixed || v.isGuarded || w.isGuarded) = false)
    (static : ∀ s, m.valueOf (.static s) ≠ v) : (m.assign r w).valueOf r = w := by
  subst h
  rw [assign, if_neg (by simp [free])]
  refine valueOf_setValue plain ?_ w
  rintro s rfl
  exact static s rfl

theorem assign_coroutine {c d : Coroutine} (h : m.valueOf r = .coroutine c) :
    (m.assign r (.coroutine d)).valueOf r = .coroutine d :=
  assign_self h (by rintro ⟨⟩) rfl fun s => by cases s <;> rintro ⟨⟩

theorem assign_generator {c d : Coroutine} (h : m.valueOf r = .asyncGenerator c) :
    (m.assign r (.asyncGenerator d)).valueOf r = .asyncGenerator d :=
  assign_self h (by rintro ⟨⟩) rfl fun s => by cases s <;> rintro ⟨⟩

end Memory

/-- A task, whatever it waits for. -/
def Task.idle (t : Task) : Task := { t with waitsFor := none }

/-- The objects that take part in asking a generator for an item: the step that is awaited, the task
that awaits it, and the coroutine of the task. -/
structure Errand where
  generator : Ref
  step : Ref
  coroutine : Ref
  task : Ref
  loop : Ref

namespace Errand

variable {x : Errand} {m n k : Memory} {frames : List Frame} {halt : Halt}

/-- The frames of the coroutine below those of the body. -/
def below (x : Errand) : List Frame := [.item x.generator, .wrapping x.step]

/-- Whether all objects of an errand stay as they are, but for the callbacks of the task and for what
it waits for. -/
structure Leaves (x : Errand) (m n : Memory) : Prop where
  generator : n.valueOf x.generator = m.valueOf x.generator
  step : n.valueOf x.step = m.valueOf x.step
  coroutine : n.valueOf x.coroutine = m.valueOf x.coroutine
  task : ∀ f, m.valueOf x.task = .future f → ∃ g, n.valueOf x.task = .future g ∧
    g.loop = f.loop ∧ g.outcome = f.outcome ∧ g.task.map Task.idle = f.task.map Task.idle

namespace Leaves

theorem refl (m : Memory) : x.Leaves m m := ⟨rfl, rfl, rfl, fun f hf => ⟨f, hf, rfl, rfl, rfl⟩⟩

/-- Objects that stay the same stay as they are. -/
theorem of_object (same : ∀ r ∈ [x.generator, x.step, x.coroutine, x.task], n.object r = m.object r) :
    x.Leaves m n where
  generator := congrArg Object.value (same _ (by simp))
  step := congrArg Object.value (same _ (by simp))
  coroutine := congrArg Object.value (same _ (by simp))
  task f hf := ⟨f, (congrArg Object.value (same _ (by simp))).trans hf, rfl, rfl, rfl⟩

theorem trans (mn : x.Leaves m n) (nk : x.Leaves n k) : x.Leaves m k where
  generator := nk.generator.trans mn.generator
  step := nk.step.trans mn.step
  coroutine := nk.coroutine.trans mn.coroutine
  task f hf := by
    obtain ⟨g, hg, loop, outcome, task⟩ := mn.task f hf
    obtain ⟨h, hh, loop', outcome', task'⟩ := nk.task g hg
    exact ⟨h, hh, loop'.trans loop, outcome'.trans outcome, task'.trans task⟩

end Leaves

/-- The memory in which the coroutine of the task is resumed. -/
def entered (x : Errand) (m : Memory) : Memory :=
  let asked := m.changeFuture x.task fun f =>
    { f with task := f.task.map fun t => { t with mustCancel := false, waitsFor := none } }
  { asked with currentTask := some x.task }

/-- The memory in which the coroutine of the task goes on. -/
def resumed (x : Errand) (m : Memory) : Memory :=
  (x.entered m).assign x.coroutine (.coroutine ⟨.running, []⟩)

/-- The memory in which the body goes on when the task has begun. -/
def opened (x : Errand) (m : Memory) : Memory :=
  (x.resumed m).assign x.generator (.asyncGenerator ⟨.running, []⟩)

end Errand

namespace Eval

/-- What a coroutine does when the walk over its frames is over. -/
def afterWalk (r : Ref) : Walked → Eval Progress
  | .handed x frames => do
    setCoroutine r .suspended frames
    pure (.yielded x)
  | .finished c => do
    setCoroutine r .finished []
    match c with
    | .normal => pure (.returned Ref.none)
    | .returned v => pure (.returned v)
    | .raised e =>
      if (← memory).isException e .stopIteration then throw (← raisedInside "coroutine" e)
      else throw e

/-- What arrives at the frames of a coroutine that has begun. -/
def arrivalOf : Resumption → Arrival
  | .send v => .value v
  | .throw e => .ended (.raised e)

variable {m n : Memory} {r : Ref} {frames : List Frame}

theorem walk_from {task : Option Ref} (h : m.currentTask = task) (a : Arrival) : (do
      setCoroutine r .running []
      let task := (← memory).currentTask
      afterWalk r (← walk Machine.top task (← walkBound frames) frames a) : Eval Progress).run m =
    (do afterWalk r (← walk Machine.top task (← walkBound frames) frames a) : Eval Progress).run
      (m.assign r (.coroutine ⟨.running, []⟩)) := by
  have same : (m.assign r (.coroutine ⟨.running, []⟩)).currentTask = task := by
    rw [Memory.assign]
    split
    · exact h
    · rw [← h]
      cases r <;> rfl
  rw [run_bind_ok (show (setCoroutine r .running []).run m =
    (.ok (), m.assign r (.coroutine ⟨.running, []⟩)) from rfl), run_memory_bind, same]

theorem resume_suspended (h : m.valueOf r = .coroutine ⟨.suspended, frames⟩) {task : Option Ref}
    (current : m.currentTask = task) (how : Resumption) : (resume Machine.top r how).run m = (do
      afterWalk r (← walk Machine.top task (← walkBound frames) frames (arrivalOf how)) :
        Eval Progress).run (m.assign r (.coroutine ⟨.running, []⟩)) := by
  rw [resume, run_valueOf_bind, h]
  cases how <;> exact walk_from current _

theorem resume_created (h : m.valueOf r = .coroutine ⟨.created, frames⟩) {task : Option Ref}
    (current : m.currentTask = task) (v : Ref) : (resume Machine.top r (.send v)).run m = (do
      afterWalk r (← walk Machine.top task (← walkBound frames) frames .goOn) :
        Eval Progress).run (m.assign r (.coroutine ⟨.running, []⟩)) := by
  rw [resume, run_valueOf_bind, h]
  exact walk_from current _

theorem movesAll_append (frames below : List Frame) :
    Frame.movesAll (frames ++ below) = Frame.movesAll frames + Frame.movesAll below := by
  induction frames with
  | nil => simp [Frame.movesAll]
  | cons f rest ih => rw [List.cons_append, Frame.movesAll, Frame.movesAll, ih]; omega

theorem walkBound_inner (inner : frames.all Frame.isInner = true) (g step : Ref) :
    walkBound (frames ++ [.item g, .wrapping step]) = pure (Frame.movesAll frames + 12) := by
  have moves := movesAll_append frames [.item g, .wrapping step]
  have four : Frame.movesAll [.item g, .wrapping step] = 4 := rfl
  obtain _ | ⟨f, rest⟩ := frames
  · rfl
  · rw [List.all_cons, Bool.and_eq_true] at inner
    rw [List.cons_append] at moves ⊢
    cases f with
    | wrapping r => cases inner.1
    | _ =>
      refine congrArg pure (?_ : _ + Frame.movesAll [] + 8 = _)
      rw [moves, four]
      rfl

theorem walkBound_wrapping {step g : Ref} {phase : Phase} (hs : m.valueOf step = .asyncGeneratorStep g)
    (hg : m.valueOf g = .asyncGenerator ⟨phase, frames⟩) :
    (walkBound [.wrapping step]).run m = (.ok (Frame.movesAll frames + 10), m) := by
  have behind : (framesBehind step).run m = (.ok frames, m) := by
    rw [framesBehind, run_valueOf_bind, hs]
    simp only
    rw [run_valueOf_bind, hg]
    rfl
  rw [walkBound]
  simp only
  rw [run_bind_ok behind, run_pure]
  have : Frame.movesAll [Frame.wrapping step] = 2 := rfl
  rw [this, show 2 + Frame.movesAll frames + 8 = Frame.movesAll frames + 10 by omega]

end Eval

namespace Errand

variable {x : Errand} {m n k : Memory} {frames : List Frame} {halt : Halt}

/-- A coroutine that waits goes on with the body. -/
theorem resume_within (current : m.currentTask = some x.task)
    (waits : m.valueOf x.coroutine = .coroutine ⟨.suspended, frames ++ x.below⟩)
    (inner : frames.all Frame.isInner = true) {how : Resumption}
    (goes : Goes x.Leaves (some x.task) frames (arrivalOf how)
      (m.assign x.coroutine (.coroutine ⟨.running, []⟩)) halt k) :
    (resume Machine.top x.coroutine how).run m = (do
      afterWalk x.coroutine (← halt.delivered x.generator x.step) : Eval Progress).run k := by
  rw [resume_suspended waits current, below, walkBound_inner inner, pure_bind, run_bind,
    goes.walk inner _ ?_, run_bind]
  have := weight_le frames (arrivalOf how)
  omega

theorem resume_begins {phase : Phase} (current : m.currentTask = some x.task)
    (created : m.valueOf x.coroutine = .coroutine ⟨.created, [.wrapping x.step]⟩)
    (step : m.valueOf x.step = .asyncGeneratorStep x.generator)
    (rests : m.valueOf x.generator = .asyncGenerator ⟨phase, frames⟩)
    (idle : phase = .created ∨ phase = .suspended)
    (inner : frames.all Frame.isInner = true) {v : Ref}
    (goes : Goes x.Leaves (some x.task) frames .goOn
      ((m.assign x.coroutine (.coroutine ⟨.running, []⟩)).assign x.generator
        (.asyncGenerator ⟨.running, []⟩)) halt k) :
    (resume Machine.top x.coroutine (.send v)).run m = (do
      afterWalk x.coroutine (← halt.delivered x.generator x.step) : Eval Progress).run k := by
  let n := m.assign x.coroutine (.coroutine ⟨.running, []⟩)
  have other {r : Ref} {w : Value} (h : m.valueOf r = w)
      (differs : w ≠ .coroutine ⟨.created, [.wrapping x.step]⟩) : n.valueOf r = w := by
    refine (Memory.valueOf_assign_of_ne ?_ _).trans h
    rintro rfl
    exact differs (h.symm.trans created)
  have step' : n.valueOf x.step = .asyncGeneratorStep x.generator := other step nofun
  have rests' : n.valueOf x.generator = .asyncGenerator ⟨phase, frames⟩ := other rests nofun
  have opens : (moveOn Machine.top (some x.task) [.wrapping x.step] .goOn).run n =
      (.ok (.ok (frames ++ x.below, .goOn)),
        n.assign x.generator (.asyncGenerator ⟨.running, []⟩)) := by
    simp only [moveOn, openAwaitable]
    rw [run_valueOf_bind, step']
    simp only [openGenerator]
    rw [run_valueOf_bind, rests']
    rcases idle with rfl | rfl <;> rfl
  rw [resume_created created current, run_bind_ok (walkBound_wrapping step' rests'), run_bind,
    show Frame.movesAll frames + 10 = Frame.movesAll frames + 9 + 1 from rfl, Eval.walk,
    run_bind_ok opens]
  have enough : weight frames .goOn + 2 < Frame.movesAll frames + 9 := by
    have := weight_le frames .goOn
    omega
  rw [below]
  simp only
  rw [goes.walk inner _ enough, run_bind]

end Errand

namespace Eval

/-- What a task does when its coroutine has been resumed. -/
def afterResume (m : Machine) (loop task : Ref) : Except Ref Progress → Eval Unit
  | .ok (.returned v) => do
    match (← futureOf? task) with
    | some { task := some t, .. } =>
      if t.mustCancel then
        modifyTask task fun t => { t with mustCancel := false }
        finishFuture task .cancelled FutureOutcome.isDone_cancelled
      else finishFuture task (.result v) (FutureOutcome.isDone_result v)
    | _ => pure ()
  | .ok (.yielded r) => followUp m loop task r
  | .error e => do
    if ← isCancellation e then finishFuture task .cancelled FutureOutcome.isDone_cancelled
    else
      finishFuture task (.failed e) (FutureOutcome.isDone_failed e)
      if ← leavesLoop e then throw e

/-- What a task is resumed with. -/
def resumptionOf : Option Ref → Resumption
  | some e => .throw e
  | none => .send Ref.none

theorem caught_run {α : Type} (body : Eval α) (m : Memory) :
    (caught body).run m = (.ok (body.run m).1, (body.run m).2) := by
  rw [caught, run_tryCatch, run_bind]
  rcases body.run m with ⟨_ | _, _⟩ <;> rfl

end Eval

namespace Errand

variable {x : Errand} {m n k : Memory} {f : Future} {w : Option Ref}

theorem stepTask_run (future : m.valueOf x.task = .future f) (loop : f.loop = x.loop)
    (pending : f.outcome = .pending) (task : f.task = some ⟨x.coroutine, false, w⟩)
    (e : Option Ref) {res : Except Ref Progress}
    (resumed : (resume Machine.top x.coroutine (resumptionOf e)).run (x.entered m) = (res, n)) :
    (stepTask Machine.top x.task e).run m =
      (afterResume Machine.top x.loop x.task res).run { n with currentTask := m.currentTask } := by
  obtain ⟨_, _, callbacks, removed, _⟩ := f
  cases loop
  cases pending
  cases task
  have current : (m.changeFuture x.task fun f =>
      { f with task := f.task.map fun t => { t with mustCancel := false, waitsFor := none } }
      ).currentTask = m.currentTask := by
    rw [Memory.changeFuture]
    split
    · cases x.task <;> rfl
    · rfl
  rw [stepTask]
  simp only [futureOf?, bind_assoc]
  rw [run_valueOf_bind, future]
  simp only [pure_bind, Bool.false_eq_true, if_false]
  rw [run_bind_ok (show (modifyTask x.task _).run m = (.ok (), _) from rfl), run_memory_bind, current,
    run_bind_ok (show (setCurrentTask (some x.task)).run _ = (.ok (), x.entered m) from rfl),
    run_bind_ok (caught_run _ _)]
  have left : (setCurrentTask m.currentTask).run n =
    (.ok (), { n with currentTask := m.currentTask }) := rfl
  cases e with
  | none =>
    simp only [resumptionOf] at resumed
    rw [resumed, run_bind_ok left]
    rcases res with e | v | r <;> rfl
  | some e =>
    simp only [resumptionOf] at resumed
    rw [resumed, run_bind_ok left]
    rcases res with e | v | r <;> rfl

end Errand

end EmbeddedPython
