import EmbeddedPython.Proofs.Asyncio.Resuming
import EmbeddedPython.Proofs.Interpreter.Holding

namespace EmbeddedPython

open Eval

namespace Memory

/-- Whether no other objects are changed than the given ones and loops. -/
structure Alters (changed : List Ref) (m n : Memory) : Prop where
  has : ∀ {r : Ref}, m.Has r → n.Has r
  object : ∀ {r : Ref}, m.Has r → r ∉ changed → ¬ m.IsLoop r → n.object r = m.object r

namespace Alters

variable {m n k : Memory} {changed more : List Ref} {r : Ref} {v : Value}

theorem refl (changed : List Ref) (m : Memory) : Alters changed m m := ⟨id, fun _ _ _ => rfl⟩

theorem trans (mn : Alters changed m n) (nk : Alters changed n k) : Alters changed m k where
  has hr := nk.has (mn.has hr)
  object {r} hr other unlooped := by
    have same := mn.object hr other unlooped
    refine (nk.object (mn.has hr) other ?_).trans same
    rintro ⟨y, hy⟩
    rw [valueOf, same] at hy
    exact unlooped ⟨y, hy⟩

theorem mono (h : Alters changed m n) (sub : changed ⊆ more) : Alters more m n where
  has := h.has
  object hr other := h.object hr fun hc => other (sub hc)

theorem of_adds (h : m.Adds n) (changed : List Ref) : Alters changed m n :=
  ⟨h.has, fun hr _ _ => h.object hr⟩

theorem of_cells (cells : n.cells = m.cells) (changed : List Ref) : Alters changed m n :=
  ⟨fun hr => hr.of_size_le (Nat.le_of_eq (congrArg Array.size cells.symm)),
    fun _ _ _ => object_congr cells _⟩

theorem setValue (m : Memory) (r : Ref) (v : Value) : Alters [r] m (m.setValue r v) where
  has hr := hr.of_size_le (Nat.le_of_eq (size_set m _ _).symm)
  object _ other _ := object_set_of_ne m (by rintro rfl; exact other List.mem_cons_self) _

theorem assign (m : Memory) (r : Ref) (v : Value) : Alters [r] m (m.assign r v) := by
  rw [Memory.assign]
  split
  · exact refl _ m
  · exact setValue m r v

theorem changeLoop (m : Memory) (r : Ref) (f : Loop → Loop) : Alters [] m (m.changeLoop r f) := by
  rw [Memory.changeLoop]
  split
  · next x hx =>
    have set := setValue m r (.loop (f x))
    refine ⟨set.has, fun {s} hs _ unlooped => set.object hs ?_ unlooped⟩
    intro same
    exact unlooped ⟨x, List.mem_singleton.mp same ▸ hx⟩
  · exact refl _ m

theorem changeFuture (m : Memory) (r : Ref) (f : Future → Future) :
    Alters [r] m (m.changeFuture r f) := by
  rw [Memory.changeFuture]
  split
  · exact setValue m r _
  · exact refl _ m

theorem valueOf (h : Alters changed m n) (hv : m.valueOf r = v) (some : v ≠ .plain)
    (unlooped : ∀ y, v ≠ .loop y) (other : r ∉ changed) : n.valueOf r = v := by
  have unchanged : n.object r = m.object r := by
    refine h.object (has_of_value (hv ▸ some)) other ?_
    rintro ⟨y, hy⟩
    exact unlooped y (hv.symm.trans hy)
  exact (congrArg Object.value unchanged).trans hv

/-- What another value tells from the object that is changed has its value. -/
theorem other {s : Ref} {w : Value} (h : Alters [r] m n) (hr : m.valueOf r = w)
    (hs : m.valueOf s = v) (some : v ≠ .plain) (unlooped : ∀ y, v ≠ .loop y) (differ : v ≠ w) :
    n.valueOf s = v := by
  refine h.valueOf hs some unlooped fun mem => differ ?_
  rw [← hs, List.mem_singleton.mp mem, hr]

end Alters

end Memory

namespace Eval

open Memory

variable {m n : Memory} {r : Ref} {f : Future} {o : FutureOutcome}

theorem raise_alters {α : Type} (c : ExceptionClass) (text : Text) (changed : List Ref) (m : Memory) :
    Alters changed m ((raise c text : Eval α).run m).2 := by
  obtain ⟨t, i, made, adds, -⟩ := newText_makes text m
  obtain ⟨e, n, thrown, adds', -⟩ := make_run (.exception c) (.exception [t] .nothing) i
  have run : (raise c text : Eval α).run m = (.error e, n) := by
    rw [raise, run_bind_ok made, newException, run_bind_ok thrown]
    rfl
  rw [run]
  exact .of_adds (adds.trans adds') _

theorem callSoon_alters (loop : Ref) (entry : Scheduled) (m : Memory) :
    Alters [] m ((callSoon loop entry).run m).2 := by
  have opened : Alters [] m
      ((update (·.schedule loop [entry]) (.schedule · loop [entry])).run m).2 := .changeLoop m loop _
  simp only [callSoon, loopOf?, bind_assoc]
  rw [run_valueOf_bind]
  split
  · rw [pure_bind]
    split
    · exact raise_alters _ _ _ m
    · exact opened
  · exact opened

theorem finish_value (future : m.valueOf r = .future f) (pending : f.outcome = .pending)
    (o : FutureOutcome) :
    (m.finish r o).valueOf r = .future { f with outcome := o, callbacks := [] } ∧
      Alters [r] m (m.finish r o) := by
  have undone : ¬ f.outcome.isDone = true := by rw [pending]; nofun
  have static (s : Static) : r ≠ .static s := by
    rintro rfl
    cases s <;> cases future
  have scheduled : Alters [] m (m.schedule f.loop (f.callbacks.map (·.entry r))) := .changeLoop m _ _
  have same := scheduled.valueOf future nofun nofun List.not_mem_nil
  simp only [finish, future, if_neg undone]
  refine ⟨valueOf_setValue (by rw [same]; nofun) static _, ?_⟩
  exact (scheduled.mono (List.nil_subset _)).trans (.setValue _ r _)

theorem finishFuture_value (future : m.valueOf r = .future f) (pending : f.outcome = .pending)
    (done : o.isDone = true) : ((finishFuture r o done).run m).2.valueOf r =
        .future { f with outcome := o, callbacks := [] } ∧
      Alters [r] m ((finishFuture r o done).run m).2 := by
  obtain ⟨value, alters⟩ := finish_value future pending o
  have stays {n : Memory} (h : Alters [] (m.finish r o) n) :
      n.valueOf r = .future { f with outcome := o, callbacks := [] } ∧ Alters [r] m n :=
    ⟨h.valueOf value nofun nofun List.not_mem_nil, alters.trans (h.mono (List.nil_subset _))⟩
  have finished : (update (·.finish r o) (.finish · r done)).run m = (.ok (), m.finish r o) := rfl
  simp only [finishFuture, futureOf?, bind_assoc]
  rw [run_valueOf_bind, future]
  simp only [pure_bind]
  rw [run_bind_ok finished]
  split
  · simp only [loopOf?, bind_assoc]
    rw [run_valueOf_bind]
    split
    · rw [pure_bind]
      split
      · exact stays (raise_alters _ _ _ _)
      · exact ⟨value, alters⟩
    · exact ⟨value, alters⟩
  · exact ⟨value, alters⟩

end Eval

/-- What the body of a generator comes to that is asked for an item. -/
inductive Turnout where
  | yields (item : Ref)
  | ends
  | raises (e : Ref)
  /-- it raises the exception of a cancellation -/
  | cancels
  deriving DecidableEq

section

variable {x : Errand} {m n k : Memory} {frames : List Frame}

namespace Errand

/-- Whether the task is pending. -/
structure Pending (x : Errand) (m : Memory) : Prop where
  step : m.valueOf x.step = .asyncGeneratorStep x.generator
  task : ∃ callbacks removed waits, m.valueOf x.task =
    .future ⟨x.loop, .pending, callbacks, removed, some ⟨x.coroutine, false, waits⟩⟩

/-- Whether the body is running. -/
structure Running (x : Errand) (m : Memory) : Prop extends Pending x m where
  generator : m.valueOf x.generator = .asyncGenerator ⟨.running, []⟩
  coroutine : m.valueOf x.coroutine = .coroutine ⟨.running, []⟩

/-- Whether the task waits inside the body. -/
structure Waits (x : Errand) (frames : List Frame) (m : Memory) : Prop extends Pending x m where
  generator : m.valueOf x.generator = .asyncGenerator ⟨.running, []⟩
  coroutine : m.valueOf x.coroutine = .coroutine ⟨.suspended, frames ++ x.below⟩

end Errand

/-- Whether a generator can be asked for an item, and goes on with given frames then. -/
def Rests (g : Ref) (frames : List Frame) (m : Memory) : Prop :=
  ∃ phase, (phase = .created ∨ phase = .suspended) ∧
    m.valueOf g = .asyncGenerator ⟨phase, frames⟩

namespace Errand

/-- Whether the task has not begun. -/
structure Asks (x : Errand) (frames : List Frame) (m : Memory) : Prop extends Pending x m where
  generator : Rests x.generator frames m
  coroutine : m.valueOf x.coroutine = .coroutine ⟨.created, [.wrapping x.step]⟩

theorem Pending.leaves (h : x.Pending m) (mn : x.Leaves m n) : x.Pending n := by
  obtain ⟨step, callbacks, removed, waits, task⟩ := h
  obtain ⟨⟨_, _, callbacks', removed', t⟩, value, loop, outcome, same⟩ := mn.task _ task
  cases loop
  cases outcome
  obtain _ | ⟨coroutine, must, waits'⟩ := t
  · cases same
  · cases same
    exact ⟨mn.step.trans step, callbacks', removed', waits', value⟩

theorem Running.leaves (h : x.Running m) (mn : x.Leaves m n) : x.Running n :=
  ⟨h.toPending.leaves mn, mn.generator.trans h.generator, mn.coroutine.trans h.coroutine⟩

theorem Waits.leaves (h : x.Waits frames m) (mn : x.Leaves m n) : x.Waits frames n :=
  ⟨h.toPending.leaves mn, mn.generator.trans h.generator, mn.coroutine.trans h.coroutine⟩

theorem Asks.leaves (h : x.Asks frames m) (mn : x.Leaves m n) : x.Asks frames n := by
  obtain ⟨pending, ⟨phase, idle, generator⟩, coroutine⟩ := h
  exact ⟨pending.leaves mn, ⟨phase, idle, mn.generator.trans generator⟩,
    mn.coroutine.trans coroutine⟩

theorem entered_alters (x : Errand) (m : Memory) : Memory.Alters [x.task] m (x.entered m) := by
  have asked := Memory.Alters.changeFuture m x.task fun f =>
    { f with task := f.task.map fun t => { t with mustCancel := false, waitsFor := none } }
  have cells : (x.entered m).cells = (m.changeFuture x.task _).cells := rfl
  exact asked.trans (.of_cells cells _)

theorem Pending.entered (h : x.Pending m) : x.Pending (x.entered m) := by
  obtain ⟨step, callbacks, removed, waits, task⟩ := h
  exact ⟨(x.entered_alters m).other task step nofun nofun nofun, callbacks, removed, none,
    m.valueOf_changeFuture task _⟩

/-- The body goes on where it waits. -/
theorem Waits.resumed (h : x.Waits frames m) : x.Running (x.resumed m) := by
  obtain ⟨pending, generator, coroutine⟩ := h
  obtain ⟨callbacks, removed, waits, task⟩ := pending.task
  have entered := x.entered_alters m
  have suspended := entered.other task coroutine nofun nofun nofun
  have running := entered.other task generator nofun nofun nofun
  obtain ⟨step, callbacks, removed, waits, task⟩ := pending.entered
  have assigned := Memory.Alters.assign (x.entered m) x.coroutine (.coroutine ⟨.running, []⟩)
  exact ⟨⟨assigned.other suspended step nofun nofun nofun, callbacks, removed, waits,
    assigned.other suspended task nofun nofun nofun⟩, assigned.other suspended running nofun nofun nofun,
    Memory.assign_coroutine suspended⟩

/-- The body goes on from where it has yielded, or begins. -/
theorem Asks.opened (h : x.Asks frames m) : x.Running (x.opened m) := by
  obtain ⟨pending, ⟨phase, -, generator⟩, coroutine⟩ := h
  obtain ⟨callbacks, removed, waits, task⟩ := pending.task
  have entered := x.entered_alters m
  have created := entered.other task coroutine nofun nofun nofun
  have rests := entered.other task generator nofun nofun nofun
  obtain ⟨step, callbacks, removed, waits, task⟩ := pending.entered
  have assigned := Memory.Alters.assign (x.entered m) x.coroutine (.coroutine ⟨.running, []⟩)
  have running := Memory.assign_coroutine (d := ⟨.running, []⟩) created
  have step := assigned.other created step nofun nofun nofun
  have task := assigned.other created task nofun nofun nofun
  have rests := assigned.other created rests nofun nofun nofun
  have opened := Memory.Alters.assign (x.resumed m) x.generator (.asyncGenerator ⟨.running, []⟩)
  exact ⟨⟨opened.other rests step nofun nofun nofun, callbacks, removed, waits,
    opened.other rests task nofun nofun nofun⟩, Memory.assign_generator rests,
    opened.other rests running nofun nofun nofun⟩

end Errand

end

/-- What a body does leaves everything alone that is to be left alone. -/
theorem Goes.leaves {x : Errand} {task : Option Ref} {frames : List Frame} {a : Arrival}
    {m k : Memory} {halt : Halt} (goes : Goes x.Leaves task frames a m halt k) : x.Leaves m k := by
  induction goes with
  | ends c m => exact .refl m
  | waits _ _ alone => exact alone
  | yields _ _ alone => exact alone
  | fails _ _ alone _ ih => exact alone.trans ih
  | moves _ _ _ alone _ ih => exact alone.trans ih

namespace Memory

/-- Whether all objects keep their classes, and all classes what they are. -/
def SameClasses (m n : Memory) : Prop :=
  ∀ r, n.classOf r = m.classOf r ∧ n.class? r = m.class? r

namespace SameClasses

variable {m n k : Memory} {r : Ref}

theorem trans (mn : m.SameClasses n) (nk : n.SameClasses k) : m.SameClasses k :=
  fun r => ⟨(nk r).1.trans (mn r).1, (nk r).2.trans (mn r).2⟩

theorem isException (h : m.SameClasses n) (r : Ref) (c : ExceptionClass) :
    n.isException r c = m.isException r c := by
  rw [Memory.isException, isKind, isInstance, (h r).1, isSubclass, lineage, (h (m.classOf r)).2]
  rfl

theorem of_cells (cells : n.cells = m.cells) : m.SameClasses n := by
  intro r
  have same (r : Ref) : n.valueOf r = m.valueOf r := congrArg Object.value (object_congr cells r)
  refine ⟨congrArg Object.cls (object_congr cells r), ?_⟩
  cases r with
  | static s => cases s <;> rfl
  | cell id => rw [class?, class?, same]

/-- An object that is no class and does not become one. -/
theorem setValue {v : Value} (before : ∀ info, m.valueOf r ≠ .cls info)
    (after : ∀ info, v ≠ .cls info) : m.SameClasses (m.setValue r v) := by
  intro s
  by_cases same : s = r
  · subst same
    rcases object_set_self m s { m.object s with value := v } with filled | cells
    · refine ⟨(congrArg Object.cls filled :), ?_⟩
      cases s with
      | static s => cases s <;> rfl
      | cell id =>
        rw [class?_of_value before, class?_of_value]
        intro info h
        exact after info ((congrArg Object.value filled).symm.trans h)
    · exact of_cells cells s
  · have other := object_set_of_ne m same { m.object r with value := v }
    refine ⟨congrArg Object.cls other, ?_⟩
    cases s with
    | static s => cases s <;> rfl
    | cell id => rw [class?, class?, valueOf_setValue_of_ne same]

theorem assign {v : Value} (before : ∀ info, m.valueOf r ≠ .cls info)
    (after : ∀ info, v ≠ .cls info) : m.SameClasses (m.assign r v) := by
  rw [Memory.assign]
  split
  · exact of_cells rfl
  · exact setValue before after

end SameClasses

end Memory

/-- What a task comes to that awaits an item, when the body has come to something. -/
inductive Halt.Comes (m : Memory) : Halt → Turnout → Prop where
  | yields (item : Ref) (frames : List Frame) : Comes m (.yields item frames) (.yields item)
  | ends {c : Completion} (normal : ∀ e, c ≠ .raised e) : Comes m (.ends c) .ends
  | raises {e : Ref} (other : m.isException e .cancelledError = false) :
      Comes m (.ends (.raised e)) (.raises e)
  | cancels {e : Ref} (cancels : m.isException e .cancelledError = true) :
      Comes m (.ends (.raised e)) .cancels

/-- The exception with which a generator ends an iteration. -/
def endOfItems : Object :=
  ⟨Ref.ofExceptionClass .stopAsyncIteration, .exception [] .nothing, some []⟩

/-- What the coroutine of the task returns or raises. -/
inductive Turnout.Results (m : Memory) : Turnout → Except Ref Progress → Prop where
  | yields (item : Ref) : Results m (.yields item) (.ok (.returned item))
  | ends {e : Ref} (stop : m.object e = endOfItems) : Results m .ends (.error e)
  | raises {e : Ref} (other : m.isException e .cancelledError = false) : Results m (.raises e) (.error e)
  | cancels {e : Ref} (cancels : m.isException e .cancelledError = true) :
      Results m .cancels (.error e)

namespace Errand

variable {x : Errand} {m n k : Memory} {c d : Coroutine}

/-- The generator is left. -/
theorem Running.left (h : x.Running k) (c : Coroutine) :
    x.Pending (k.assign x.generator (.asyncGenerator c)) ∧
    (k.assign x.generator (.asyncGenerator c)).valueOf x.generator = .asyncGenerator c ∧
    (k.assign x.generator (.asyncGenerator c)).valueOf x.coroutine = .coroutine ⟨.running, []⟩ ∧
    k.SameClasses (k.assign x.generator (.asyncGenerator c)) := by
  obtain ⟨⟨step, callbacks, removed, waits, task⟩, generator, coroutine⟩ := h
  have assigned := Memory.Alters.assign k x.generator (.asyncGenerator c)
  exact ⟨⟨assigned.other generator step nofun nofun nofun, callbacks, removed, waits,
    assigned.other generator task nofun nofun nofun⟩, Memory.assign_generator generator,
    assigned.other generator coroutine nofun nofun nofun,
    .assign (fun info h => nomatch generator.symm.trans h) nofun⟩

/-- The coroutine of the task is left. -/
theorem Pending.left (h : x.Pending m) (coroutine : m.valueOf x.coroutine = .coroutine c)
    (generator : m.valueOf x.generator = .asyncGenerator d) (c' : Coroutine) :
    x.Pending (m.assign x.coroutine (.coroutine c')) ∧
    (m.assign x.coroutine (.coroutine c')).valueOf x.coroutine = .coroutine c' ∧
    (m.assign x.coroutine (.coroutine c')).valueOf x.generator = .asyncGenerator d ∧
    m.SameClasses (m.assign x.coroutine (.coroutine c')) := by
  obtain ⟨step, callbacks, removed, waits, task⟩ := h
  have assigned := Memory.Alters.assign m x.coroutine (.coroutine c')
  exact ⟨⟨assigned.other coroutine step nofun nofun nofun, callbacks, removed, waits,
    assigned.other coroutine task nofun nofun nofun⟩, Memory.assign_coroutine coroutine,
    assigned.other coroutine generator nofun nofun nofun,
    .assign (fun info h => nomatch coroutine.symm.trans h) nofun⟩

theorem Pending.adds (h : x.Pending m) (mn : m.Adds n) : x.Pending n := by
  obtain ⟨step, callbacks, removed, waits, task⟩ := h
  exact ⟨mn.valueOf step nofun, callbacks, removed, waits, mn.valueOf task nofun⟩

/-- What is left of an errand when the body has come to something. -/
structure Left (x : Errand) (halt : Halt) (t : Turnout) (res : Except Ref Progress) (n : Memory) :
    Prop extends Pending x n where
  results : t.Results n res
  rests : ∀ item frames, halt = .yields item frames → Rests x.generator frames n

/-- What leaves the frames of a task leaves its coroutine. -/
theorem Pending.raises (h : x.Pending m) (coroutine : m.valueOf x.coroutine = .coroutine c)
    (generator : m.valueOf x.generator = .asyncGenerator d) {e : Ref}
    (proper : m.isException e .stopIteration = false) : ∃ n, (do
      afterWalk x.coroutine (← leaving e) : Eval Progress).run m = (.error e, n) ∧
      x.Pending n ∧ m.SameClasses n ∧ (∀ r, r ≠ x.coroutine → n.object r = m.object r) := by
  obtain ⟨pending, -, -, same⟩ := h.left coroutine generator ⟨.finished, []⟩
  refine ⟨_, ?_, pending, same, fun r other => ?_⟩
  · have leaves : (leaving e).run m = (.ok (.finished (.raised e)), m) := by
      rw [leaving, run_memory_bind, proper]
      rfl
    rw [run_bind_ok leaves]
    simp only [afterWalk]
    have left : (setCoroutine x.coroutine .finished []).run m =
      (.ok (), m.assign x.coroutine (.coroutine ⟨.finished, []⟩)) := rfl
    rw [run_bind_ok left, run_memory_bind, same.isException, proper]
    rfl
  · rw [Memory.assign]
    split
    · rfl
    · exact Memory.object_set_of_ne m other _

theorem Running.raised (h : x.Running k) {e : Ref} (proper : k.isException e .stopIteration = false) :
    ∃ n, (do
      afterWalk x.coroutine (← (Halt.ends (.raised e)).delivered x.generator x.step) :
        Eval Progress).run k = (.error e, n) ∧ x.Pending n ∧ k.SameClasses n := by
  obtain ⟨pending, generator, coroutine, same⟩ := h.left ⟨.finished, []⟩
  obtain ⟨n, raised, pending, same', -⟩ :=
    pending.raises coroutine generator ((same.isException e _).trans proper)
  refine ⟨n, ?_, pending, same.trans same'⟩
  have left : (setGenerator x.generator .finished []).run k =
    (.ok (), k.assign x.generator (.asyncGenerator ⟨.finished, []⟩)) := rfl
  simp only [Halt.delivered, bind_assoc]
  rw [run_bind_ok left]
  exact raised

/-- The coroutine of the task returns what the body yields, and raises what the body raises. -/
theorem Running.comes {halt : Halt} {t : Turnout} (h : x.Running k) (stays : halt.Stays k)
    (comes : halt.Comes k t) : ∃ res n, (do
      afterWalk x.coroutine (← halt.delivered x.generator x.step) : Eval Progress).run k = (res, n) ∧
      x.Left halt t res n := by
  cases comes with
  | yields item frames =>
    obtain ⟨pending, generator, coroutine, -⟩ := h.left ⟨.suspended, frames⟩
    obtain ⟨pending, -, generator, -⟩ := pending.left coroutine generator ⟨.finished, []⟩
    refine ⟨_, _, rfl, pending, .yields item, ?_⟩
    rintro _ _ ⟨⟩
    exact ⟨.suspended, .inr rfl, generator⟩
  | @ends c normal =>
    obtain ⟨pending, generator, coroutine, -⟩ := h.left ⟨.finished, []⟩
    let m := k.assign x.generator (.asyncGenerator ⟨.finished, []⟩)
    obtain ⟨e, n, made, adds, stop⟩ : ∃ e n, (newException .stopAsyncIteration []).run m =
        (.ok e, n) ∧ m.Adds n ∧ n.object e = endOfItems :=
      ⟨_, _, rfl, .alloc m _, m.object_alloc_new _⟩
    have cls : n.classOf e = Ref.ofExceptionClass .stopAsyncIteration := congrArg Object.cls stop
    have proper : n.isException e .stopIteration = false := by
      rw [isException_builtin cls]
      decide
    have coroutine' := adds.valueOf coroutine (by simp)
    obtain ⟨i, raised, pending, -, others⟩ := (pending.adds adds).raises coroutine'
      (adds.valueOf generator (by simp)) proper
    refine ⟨.error e, i, ?_, pending, .ends ((others e ?_).trans stop), by simp⟩
    · have delivered : (do
          afterWalk x.coroutine (← (Halt.ends c).delivered x.generator x.step) :
            Eval Progress).run k = (do
          let e ← newException .stopAsyncIteration []
          afterWalk x.coroutine (← leaving e) : Eval Progress).run m := by
        have left : (setGenerator x.generator .finished []).run k = (.ok (), m) := rfl
        cases c with
        | raised e => exact absurd rfl (normal e)
        | _ =>
          simp only [Halt.delivered, bind_assoc]
          rw [run_bind_ok left]
      rw [delivered, run_bind_ok made, raised]
    · rintro rfl
      cases (congrArg Object.value stop).symm.trans coroutine'
  | @raises e other =>
    obtain ⟨n, run, pending, same⟩ := h.raised (stays e rfl)
    exact ⟨_, n, run, pending, .raises ((same.isException e _).trans other), by simp⟩
  | @cancels e cancels =>
    obtain ⟨n, run, pending, same⟩ := h.raised (stays e rfl)
    exact ⟨_, n, run, pending, .cancels ((same.isException e _).trans cancels), by simp⟩

/-- How the task stands when it has come to something. -/
inductive Returned (m : Memory) : Turnout → FutureOutcome → Prop where
  | yields (item : Ref) : Returned m (.yields item) (.result item)
  | ends {e : Ref} (stop : m.object e = endOfItems) : Returned m .ends (.failed e)
  | raises (e : Ref) : Returned m (.raises e) (.failed e)
  | cancels : Returned m .cancels .cancelled

/-- Whether the task is done. -/
def Done (x : Errand) (t : Turnout) (m : Memory) : Prop :=
  ∃ f, m.valueOf x.task = .future f ∧ Returned m t f.outcome

/-- Whether the task is done, and the generator rests if the body has yielded an item. -/
structure Finished (x : Errand) (halt : Halt) (t : Turnout) (m : Memory) : Prop where
  done : x.Done t m
  rests : ∀ item frames, halt = .yields item frames → Rests x.generator frames m

theorem Left.rests_alters {halt : Halt} {t : Turnout} {res : Except Ref Progress}
    (h : x.Left halt t res m) (mn : Memory.Alters [x.task] m n) (item : Ref) (frames : List Frame)
    (yields : halt = .yields item frames) : Rests x.generator frames n := by
  obtain ⟨callbacks, removed, waits, task⟩ := h.task
  obtain ⟨phase, idle, generator⟩ := h.rests item frames yields
  exact ⟨phase, idle, mn.other task generator nofun nofun nofun⟩

/-- The task is done when the body has come to something. -/
theorem Left.finished {halt : Halt} {t : Turnout} {res : Except Ref Progress}
    (h : x.Left halt t res m) (mach : Machine) :
    x.Finished halt t ((afterResume mach x.loop x.task res).run m).2 := by
  obtain ⟨callbacks, removed, waits, task⟩ := h.task
  have ends {o : FutureOutcome} (done : o.isDone = true)
      (returned : ∀ {n}, Memory.Alters [x.task] m n → Returned n t o) :
      x.Finished halt t ((finishFuture x.task o done).run m).2 := by
    obtain ⟨value, alters⟩ := finishFuture_value task rfl done
    exact ⟨⟨_, value, returned alters⟩, h.rests_alters alters⟩
  -- an exception that leaves the loop leaves the task done
  have fails {e : Ref} (other : m.isException e .cancelledError = false)
      (returned : ∀ {n}, Memory.Alters [x.task] m n → Returned n t (.failed e)) :
      x.Finished halt t ((afterResume mach x.loop x.task (.error e)).run m).2 := by
    have ended := ends (FutureOutcome.isDone_failed e) returned
    have cancels : (isCancellation e).run m = (.ok false, m) := by
      rw [isCancellation, run_memory_bind, other]
      rfl
    have same : ((afterResume mach x.loop x.task (.error e)).run m).2 =
        ((finishFuture x.task (.failed e) (FutureOutcome.isDone_failed e)).run m).2 := by
      simp only [afterResume]
      rw [run_bind_ok cancels]
      simp only [Bool.false_eq_true, if_false]
      rw [run_bind]
      rcases (finishFuture x.task (.failed e) _).run m with ⟨_ | _, n⟩
      · rfl
      · simp only [leavesLoop, bind_assoc, pure_bind]
        rw [run_memory_bind]
        split <;> rfl
    rw [same]
    exact ended
  cases h.results with
  | yields item =>
    simp only [afterResume, futureOf?, bind_assoc]
    rw [run_valueOf_bind, task]
    exact ends (FutureOutcome.isDone_result item) fun _ => .yields item
  | @ends e stop =>
    have cls : m.classOf e = Ref.ofExceptionClass .stopAsyncIteration := congrArg Object.cls stop
    have value : m.valueOf e = .exception [] .nothing := congrArg Object.value stop
    refine fails ?_ fun alters => .ends ?_
    · rw [isException_builtin cls]
      decide
    · refine (alters.object (Memory.has_of_value (by simp [value])) ?_ ?_).trans stop
      · intro same
        rw [List.mem_singleton.mp same, task] at value
        cases value
      · rintro ⟨y, hy⟩
        cases value.symm.trans hy
  | @raises e other => exact fails other fun _ => .raises e
  | @cancels e cancels =>
    have cancelled : (isCancellation e).run m = (.ok true, m) := by
      rw [isCancellation, run_memory_bind, cancels]
      rfl
    simp only [afterResume]
    rw [run_bind_ok cancelled]
    exact ends FutureOutcome.isDone_cancelled fun _ => .cancels

end Errand

/-! ## Waiting -/

namespace Eval

variable {m : Memory} {r : Ref} {f : Future}

/-- A future that asyncio has made is known as one. -/
theorem isFutureLike_run (mach : Machine) (future : m.GenuineFuture r f) :
    ∃ n, (isFutureLike mach r).run m = (.ok true, n) ∧ m.Adds n := by
  have unclassed : m.class? r = none := Memory.class?_of_asyncio (by rw [future.value]; rfl)
  have reads {c : Builtin} (genuine : m.Genuine r c)
      (known : c.definer? "_asyncio_future_blocking" = some c)
      (plain : c.definer? "__getattr__" = none)
      (data : (nativeData c "_asyncio_future_blocking" r).run m = (.ok none, m))
      (bound : isClassMethod c "_asyncio_future_blocking" = false) :
      ∃ n, (isFutureLike mach r).run m = (.ok true, n) ∧ m.Adds n := by
    have own : ((m.object r).attributes.getD []).lookup "_asyncio_future_blocking" = none := by
      rw [genuine.attributes]
      rfl
    have read := getAttr_native mach genuine.cls unclassed own known plain data bound
    have found := m.special_builtin genuine.cls "_asyncio_future_blocking"
    rw [Memory.special, known] at found
    obtain ⟨v, n, made, adds, -, holds⟩ :=
      make_makes .nativeFunction (.nativeMethod c "_asyncio_future_blocking" r) m
    have there : (v != Ref.none) = true := bne_iff_ne.mpr (holds.ne_none (by simp))
    refine ⟨n, ?_, adds⟩
    rw [isFutureLike, run_memory_bind, run_memory_bind, found]
    simp only [Option.map_some]
    rw [run_bind_ok (read.trans made), there]
    rfl
  rcases future.genuine with genuine | genuine
  · exact reads genuine (by decide) (by decide) rfl rfl
  · exact reads genuine (by decide) (by decide) rfl rfl

theorem addCallback_alters (future : m.valueOf r = .future f) (c : Callback) :
    Memory.Alters [r] m ((addCallback r c).run m).2 := by
  simp only [addCallback, futureOf?, bind_assoc]
  rw [run_valueOf_bind, future]
  simp only [pure_bind]
  split
  · exact (callSoon_alters _ _ m).mono (List.nil_subset _)
  · exact .changeFuture m r _

end Eval

namespace Errand

variable {x : Errand} {m n k : Memory} {frames : List Frame} {r : Ref}

/-- Whether what a body hands to its task is waited for without anything done to the errand. -/
inductive Handed (x : Errand) (m : Memory) (r : Ref) : Prop
  /-- it gives way to the loop -/
  | nothing (h : r = Ref.none)
  /-- it waits for a future that asyncio has made -/
  | future {f : Future} (future : m.GenuineFuture r f) (loop : f.loop = x.loop) (other : r ≠ x.task)
  | other (leaves : x.Leaves m ((followUp Machine.top x.loop x.task r).run m).2)

theorem Pending.leaves_alters (h : x.Pending m) {c d : Coroutine}
    (generator : m.valueOf x.generator = .asyncGenerator c)
    (coroutine : m.valueOf x.coroutine = .coroutine d) {changed : List Ref}
    (mn : Memory.Alters changed m n)
    (futures : ∀ s ∈ changed, ∃ f, m.valueOf s = .future f)
    (task : ∃ callbacks removed waits, n.valueOf x.task =
      .future ⟨x.loop, .pending, callbacks, removed, some ⟨x.coroutine, false, waits⟩⟩) :
    x.Leaves m n := by
  have kept {s : Ref} {v : Value} (hs : m.valueOf s = v) (some : v ≠ .plain)
      (unlooped : ∀ y, v ≠ .loop y) (other : ∀ f, v ≠ .future f) : n.valueOf s = m.valueOf s := by
    refine (mn.valueOf hs some unlooped fun mem => ?_).trans hs.symm
    obtain ⟨f, hf⟩ := futures s mem
    exact other f (hs.symm.trans hf)
  have generator := kept generator (by simp) (by simp) (by simp)
  have step := kept h.step (by simp) (by simp) (by simp)
  have coroutine := kept coroutine (by simp) (by simp) (by simp)
  refine ⟨generator, step, coroutine, fun f hf => ?_⟩
  obtain ⟨callbacks, removed, waits, before⟩ := h.task
  obtain ⟨callbacks', removed', waits', after⟩ := task
  obtain rfl : _ = f := Value.future.inj (before.symm.trans hf)
  exact ⟨_, after, rfl, rfl, rfl⟩

theorem Pending.spared (h : x.Pending m) {c d : Coroutine}
    (generator : m.valueOf x.generator = .asyncGenerator c)
    (coroutine : m.valueOf x.coroutine = .coroutine d) (mn : Memory.Alters [] m n) :
    x.Leaves m n := by
  obtain ⟨callbacks, removed, waits, task⟩ := h.task
  exact h.leaves_alters generator coroutine mn (by simp)
    ⟨callbacks, removed, waits, mn.valueOf task nofun nofun List.not_mem_nil⟩

/-- A task that waits for what it has been handed still waits inside the body. -/
theorem Waits.followUp (h : x.Waits frames m) (handed : x.Handed m r) :
    x.Leaves m ((Eval.followUp Machine.top x.loop x.task r).run m).2 := by
  obtain ⟨callbacks, removed, waits, task⟩ := h.task
  cases handed with
  | other leaves => exact leaves
  | nothing nothing =>
    subst nothing
    have other : (Ref.none == x.task) = false := by
      refine beq_eq_false_iff_ne.mpr fun same => ?_
      rw [← same] at task
      cases task
    have unlike : (isFutureLike Machine.top Ref.none).run m = (.ok false, m) := rfl
    have alters := callSoon_alters x.loop (.step x.task none) m
    rw [Eval.followUp, other]
    simp only [Bool.false_eq_true, if_false]
    rw [run_bind_ok unlike]
    exact h.leaves_alters h.generator h.coroutine alters (by simp)
      ⟨_, _, _, alters.valueOf task nofun nofun List.not_mem_nil⟩
  | @future f future loop other =>
    obtain ⟨k, alike, adds⟩ := isFutureLike_run Machine.top future
    have future' : k.valueOf r = .future f := adds.valueOf future.value nofun
    have alters := (Memory.Alters.of_adds adds [r]).trans (addCallback_alters future' (.wakeUp x.task))
    have differ : (r == x.task) = false := beq_eq_false_iff_ne.mpr other
    have blocking : (isBlocking Machine.top r).run k = (.ok true, k) := by
      simp only [isBlocking, futureOf?, bind_assoc]
      rw [run_valueOf_bind, future']
      rfl
    have ofLoop : (loopOfFuture Machine.top r).run k = (.ok x.loop, k) := by
      simp only [loopOfFuture, futureOf?, bind_assoc]
      rw [run_valueOf_bind, future', ← loop]
      rfl
    have unchanged : x.task ∉ [r] := fun mem => other (List.mem_singleton.mp mem).symm
    have futures : ∀ s ∈ [r], ∃ f, m.valueOf s = .future f := fun s hs =>
      ⟨f, List.mem_singleton.mp hs ▸ future.value⟩
    rw [Eval.followUp, differ]
    simp only [Bool.false_eq_true, if_false]
    rw [run_bind_ok alike]
    simp only [if_true]
    rw [run_bind_ok ofLoop]
    simp only [bne_self_eq_false, Bool.false_eq_true, if_false]
    rw [run_bind_ok blocking]
    simp only [if_true]
    rw [run_bind]
    generalize (addCallback r (.wakeUp x.task)).run k = b at alters
    obtain ⟨_ | _, i⟩ := b
    · exact h.leaves_alters h.generator h.coroutine alters futures ⟨_, _, _, alters.valueOf task nofun nofun unchanged⟩
    · have task' := alters.valueOf task nofun nofun unchanged
      have noted := i.valueOf_changeFuture task' fun f =>
        { f with task := f.task.map fun t => { t with waitsFor := some r } }
      have last := Memory.Alters.changeFuture i x.task fun f =>
        { f with task := f.task.map fun t => { t with waitsFor := some r } }
      have both := (alters.mono (List.subset_cons_self x.task [r])).trans
        (last.mono (List.cons_subset_cons x.task (List.nil_subset [r])))
      simp only
      rw [run_bind_ok (show (modifyTask x.task _).run i = (.ok (), _) from rfl)]
      simp only [futureOf?, bind_assoc]
      rw [run_valueOf_bind, noted]
      refine h.leaves_alters h.generator h.coroutine both (fun s hs => ?_) ⟨_, _, _, noted⟩
      rcases List.mem_cons.mp hs with rfl | hs
      · exact ⟨_, task⟩
      · exact futures s hs

end Errand

/-! ## A step of the task -/

namespace Errand

variable {x : Errand} {m n k : Memory} {frames : List Frame} {halt : Halt} {e : Option Ref}

/-- The memory in which the task waits for what its body has handed out. -/
def paused (x : Errand) (before : Option Ref) (k : Memory) (frames : List Frame) : Memory :=
  let left := k.assign x.coroutine (.coroutine ⟨.suspended, frames ++ x.below⟩)
  { left with currentTask := before }

/-- What a step of the task comes to when the body has come to something in the memory `k`. -/
structure Steps (x : Errand) (before : Option Ref) (halt : Halt) (k n : Memory) : Prop where
  waits : ∀ r left, halt = .waits r left → x.Handed (x.paused before k left) r → x.Waits left n
  comes : ∀ t, halt.Comes k t → x.Finished halt t n

theorem leaves_of_cells (cells : n.cells = m.cells) : x.Leaves m n := by
  have same (r : Ref) : n.valueOf r = m.valueOf r :=
    congrArg Object.value (Memory.object_congr cells r)
  exact ⟨same _, same _, same _, fun f hf => ⟨f, (same _).trans hf, rfl, rfl, rfl⟩⟩

theorem Finished.of_cells {t : Turnout} (h : x.Finished halt t m) (cells : n.cells = m.cells) :
    x.Finished halt t n := by
  have object (r : Ref) : n.object r = m.object r := Memory.object_congr cells r
  have same (r : Ref) : n.valueOf r = m.valueOf r := congrArg Object.value (object r)
  obtain ⟨⟨f, hf, returned⟩, rests⟩ := h
  refine ⟨⟨f, (same _).trans hf, ?_⟩, fun item frames yields => ?_⟩
  · generalize f.outcome = o at returned
    cases returned with
    | ends stop => exact .ends ((object _).trans stop)
    | _ => constructor
  · obtain ⟨phase, idle, generator⟩ := rests item frames yields
    exact ⟨phase, idle, (same _).trans generator⟩

theorem Left.of_cells {t : Turnout} {res : Except Ref Progress} (h : x.Left halt t res m)
    (cells : n.cells = m.cells) : x.Left halt t res n := by
  have object (r : Ref) : n.object r = m.object r := Memory.object_congr cells r
  have classes := Memory.SameClasses.of_cells cells
  obtain ⟨pending, results, rests⟩ := h
  refine ⟨pending.leaves (leaves_of_cells cells), ?_, fun item frames yields => ?_⟩
  · cases results with
    | yields item => exact .yields item
    | ends stop => exact .ends ((object _).trans stop)
    | raises other => exact .raises ((classes.isException _ _).trans other)
    | cancels cancels => exact .cancels ((classes.isException _ _).trans cancels)
  · obtain ⟨phase, idle, generator⟩ := rests item frames yields
    exact ⟨phase, idle, (congrArg Object.value (object _)).trans generator⟩

theorem Steps.of_cells {before : Option Ref} (h : x.Steps before halt k m)
    (cells : n.cells = m.cells) : x.Steps before halt k n where
  waits r left waits handed := (h.waits r left waits handed).leaves (leaves_of_cells cells)
  comes t comes := (h.comes t comes).of_cells cells

theorem Running.waits (h : x.Running k) (before : Option Ref) (left : List Frame) :
    x.Waits left (x.paused before k left) := by
  obtain ⟨pending, coroutine, generator, -⟩ :=
    h.toPending.left h.coroutine h.generator ⟨.suspended, left ++ x.below⟩
  have waits : x.Waits left (k.assign x.coroutine (.coroutine ⟨.suspended, left ++ x.below⟩)) :=
    ⟨pending, generator, coroutine⟩
  exact waits.leaves (leaves_of_cells rfl)

/-- The task makes its step by what its body does. -/
theorem Pending.steps (h : x.Pending m) (stays : halt.Stays k) (running : x.Running k)
    (resumed : (resume Machine.top x.coroutine (resumptionOf e)).run (x.entered m) = (do
      afterWalk x.coroutine (← halt.delivered x.generator x.step) : Eval Progress).run k) :
    x.Steps m.currentTask halt k ((stepTask Machine.top x.task e).run m).2 := by
  obtain ⟨callbacks, removed, waits, task⟩ := h.task
  constructor
  · rintro r left rfl handed
    rw [stepTask_run task rfl rfl rfl e resumed]
    have waits := running.waits m.currentTask left
    exact waits.leaves (waits.followUp handed)
  · intro t comes
    obtain ⟨res, n, run, left⟩ := running.comes stays comes
    rw [stepTask_run task rfl rfl rfl e (resumed.trans run)]
    have cells : ({ n with currentTask := m.currentTask } : Memory).cells = n.cells := rfl
    exact (left.of_cells cells).finished Machine.top

/-- The first step of the task begins to ask the generator for an item. -/
theorem Asks.steps (h : x.Asks frames m) (bodied : Bodied frames)
    (goes : Goes x.Leaves (some x.task) frames .goOn (x.opened m) halt k) :
    x.Steps m.currentTask halt k ((stepTask Machine.top x.task none).run m).2 := by
  refine h.toPending.steps (goes.bodied bodied) (h.opened.leaves goes.leaves) ?_
  obtain ⟨callbacks, removed, waits, task⟩ := h.task
  obtain ⟨phase, idle, generator⟩ := h.generator
  have entered := x.entered_alters m
  exact resume_begins rfl (entered.other task h.coroutine nofun nofun nofun)
    (entered.other task h.step nofun nofun nofun) (entered.other task generator nofun nofun nofun)
    idle bodied.inner goes

/-- A later step of the task goes on with the body. -/
theorem Waits.steps (h : x.Waits frames m) (bodied : Bodied frames)
    (goes : Goes x.Leaves (some x.task) frames (arrivalOf (resumptionOf e)) (x.resumed m) halt k) :
    x.Steps m.currentTask halt k ((stepTask Machine.top x.task e).run m).2 := by
  refine h.toPending.steps (goes.bodied bodied) (h.resumed.leaves goes.leaves) ?_
  obtain ⟨callbacks, removed, waits, task⟩ := h.task
  exact resume_within rfl ((x.entered_alters m).other task h.coroutine nofun nofun nofun)
    bodied.inner goes

/-- How an entry of a ready queue resumes the task: with an exception or without, and in which
memory. -/
inductive Resumes (x : Errand) (m : Memory) : Scheduled → Option Ref → Memory → Prop
  | step (e : Option Ref) : Resumes x m (.step x.task e) e m
  /-- what the task has waited for has a result -/
  | done {r v : Ref} {n : Memory} (run : (futureResult r).run m = (.ok v, n)) :
      Resumes x m (.wakeUp x.task r) none n
  /-- or has failed -/
  | failed {r e : Ref} {n : Memory} (run : (futureResult r).run m = (.error e, n)) :
      Resumes x m (.wakeUp x.task r) (some e) n

theorem futureResult_adds (r : Ref) (m : Memory) : m.Adds ((futureResult r).run m).2 := by
  have same : m.Adds m := .of_cells rfl rfl
  simp only [futureResult, futureOf?, bind_assoc]
  rw [run_valueOf_bind]
  split
  · simp only [pure_bind]
    split
    · obtain ⟨t, n, made, adds, -⟩ := newText_makes "Result is not set." m
      obtain ⟨e, k, thrown, adds', -⟩ :=
        make_run (.exception .invalidStateError) (.exception [t] .nothing) n
      rw [invalidState, raise, run_bind_ok made, newException, run_bind_ok thrown]
      exact adds.trans adds'
    · exact .alloc m _
    · exact same
    · exact same
  · exact same

theorem Waits.adds (h : x.Waits frames m) (mn : m.Adds n) : x.Waits frames n :=
  ⟨h.toPending.adds mn, mn.valueOf h.generator nofun, mn.valueOf h.coroutine nofun⟩

end Errand

/-- The memory in which a loop runs an entry of its ready queue. -/
def Memory.inLoop (m : Memory) (loop : Ref) : Memory := { m with runningLoop := some loop }

namespace Eval

variable {m : Memory}

theorem runReady_cells (loop : Ref) (entry : Scheduled) (m : Memory) :
    ((runReady Machine.top loop entry).run m).2.cells =
      ((runEntry Machine.top entry).run (m.inLoop loop)).2.cells := by
  have entered : (setRunningLoop (some loop)).run m = (.ok (), m.inLoop loop) := rfl
  rw [runReady, run_memory_bind, run_bind_ok entered, run_bind_ok (caught_run _ _)]
  rcases (runEntry Machine.top entry).run (m.inLoop loop) with ⟨_ | _, n⟩ <;> rfl

theorem tryCatch_leavesLoop (body : Eval Unit) (m : Memory) :
    ((tryCatch body fun e => do if ← leavesLoop e then throw e : Eval Unit).run m).2 =
      (body.run m).2 := by
  rw [run_tryCatch]
  rcases body.run m with ⟨e | _, n⟩
  · simp only [leavesLoop, bind_assoc, pure_bind]
    rw [run_memory_bind]
    split <;> rfl
  · rfl

theorem runEntry_step (mach : Machine) (task : Ref) (e : Option Ref) (m : Memory) :
    ((runEntry mach (.step task e)).run m).2 = ((stepTask mach task e).run m).2 :=
  tryCatch_leavesLoop _ m

theorem runEntry_wakeUp (mach : Machine) (task r : Ref) (m : Memory) :
    ((runEntry mach (.wakeUp task r)).run m).2 = ((wakeTask mach task r).run m).2 :=
  tryCatch_leavesLoop _ m

end Eval

namespace Errand

variable {x : Errand} {m n k : Memory} {frames : List Frame} {halt : Halt} {entry : Scheduled}
  {e : Option Ref}

/-- The loop begins to serve an errand by the entry that was made with the task. -/
theorem Asks.runs (h : x.Asks frames m) (bodied : Bodied frames)
    (goes : Goes x.Leaves (some x.task) frames .goOn (x.opened (m.inLoop x.loop)) halt k) :
    x.Steps m.currentTask halt k
      ((runReady Machine.top x.loop (.step x.task none)).run m).2 := by
  have asks : x.Asks frames (m.inLoop x.loop) := h.leaves (leaves_of_cells rfl)
  refine (asks.steps bodied goes).of_cells ?_
  rw [runReady_cells, runEntry_step]

/-- The loop goes on with an errand by an entry that resumes the task. -/
theorem Waits.runs (h : x.Waits frames m) (bodied : Bodied frames)
    (resumes : x.Resumes (m.inLoop x.loop) entry e n)
    (goes : Goes x.Leaves (some x.task) frames (arrivalOf (resumptionOf e)) (x.resumed n) halt k) :
    x.Steps n.currentTask halt k ((runReady Machine.top x.loop entry).run m).2 := by
  have waits : x.Waits frames (m.inLoop x.loop) := h.leaves (leaves_of_cells rfl)
  have woken {r : Ref} {res : Except Ref Ref} {next : Eval Unit}
      (run : (futureResult r).run (m.inLoop x.loop) = (res, n))
      (wakes : ((wakeTask Machine.top x.task r).run (m.inLoop x.loop)).2 = (next.run n).2)
      (steps : x.Steps n.currentTask halt k (next.run n).2) :
      x.Steps n.currentTask halt k ((runReady Machine.top x.loop (.wakeUp x.task r)).run m).2 := by
    refine steps.of_cells ?_
    rw [runReady_cells, runEntry_wakeUp, wakes]
  have later {r : Ref} {res : Except Ref Ref} (run : (futureResult r).run (m.inLoop x.loop) = (res, n)) :
      x.Waits frames n := by
    have adds := futureResult_adds r (m.inLoop x.loop)
    rw [run] at adds
    exact waits.adds adds
  cases resumes with
  | step e =>
    refine (waits.steps bodied goes).of_cells ?_
    rw [runReady_cells, runEntry_step]
  | @done r v n run =>
    refine woken run ?_ ((later run).steps bodied goes)
    rw [wakeTask, run_bind_ok (caught_run _ _), run]
  | @failed r e n run =>
    refine woken run ?_ ((later run).steps bodied goes)
    rw [wakeTask, run_bind_ok (caught_run _ _), run]

end Errand

end EmbeddedPython
