import EmbeddedPython.Proofs.Asyncio.Serving
import EmbeddedPython.Proofs.Bridge.Outcome
import EmbeddedPython.Proofs.Handle.Applying

/-
  Scheduling a step of a generator

  `__anext__()` makes a step of a generator, and the driver of an open loop
  wraps the step in a coroutine and the coroutine in a task, whose first step
  is put into the ready queue.
-/

namespace EmbeddedPython

open Eval

variable {m n : Memory} {g r l : Ref} {y : Loop}

namespace Eval

theorem callSoon_open (loop : m.valueOf l = .loop y) (opened : y.closed = false) (entry : Scheduled) :
    (callSoon l entry).run m = (.ok (), m.schedule l [entry]) := by
  obtain ⟨ready, stopping, closed, running, log⟩ := y
  obtain rfl : closed = false := opened
  simp only [callSoon, loopOf?, bind_assoc]
  rw [run_valueOf_bind, loop]
  rfl

/-- A task that is made begins with the coroutine. -/
theorem newTask_run (loop : m.valueOf l = .loop y) (opened : y.closed = false) (coroutine : Ref) :
    ∃ t n, (newTask l coroutine).run m = (.ok t, n) ∧ Memory.Alters [] m n ∧
      n.Holds t .task (.future ⟨l, .pending, [], [], some ⟨coroutine, false, none⟩⟩) ∧
      (n.object t).attributes = some [] ∧ ¬ m.Has t := by
  let task : Object := ⟨Ref.ofBuiltin .task,
    .future ⟨l, .pending, [], [], some ⟨coroutine, false, none⟩⟩, some []⟩
  let t : Ref := .cell m.cells.size
  let i : Memory := (m.alloc task).2
  have made : (make .task (.future ⟨l, .pending, [], [], some ⟨coroutine, false, none⟩⟩)).run m =
    (.ok t, i) := rfl
  have adds : m.Adds i := .alloc m task
  have new : i.object t = task := m.object_alloc_new task
  have soon := callSoon_open (adds.valueOf loop (by simp)) opened (.step t none)
  have scheduled : Memory.Alters [] i (i.schedule l [.step t none]) := .changeLoop i l _
  have kept : (i.schedule l [.step t none]).object t = task := by
    have value : i.valueOf t = task.value := congrArg Object.value new
    refine (scheduled.object (Memory.has_of_value (by simp [value, task])) List.not_mem_nil ?_).trans new
    rintro ⟨y, hy⟩
    cases value.symm.trans hy
  refine ⟨t, i.schedule l [.step t none], ?_, (Memory.Alters.of_adds adds []).trans scheduled,
    ⟨congrArg Object.cls kept, congrArg Object.value kept⟩, congrArg Object.attributes kept,
    Nat.lt_irrefl _⟩
  rw [newTask, run_bind_ok made, run_bind_ok soon]
  rfl

/-- A step of a generator is wrapped, and the coroutine runs as a task. -/
theorem ensureFuture_step (mach : Machine) (step : m.Holds r .asyncGeneratorStep (.asyncGeneratorStep g))
    (loop : m.valueOf l = .loop y) (opened : y.closed = false) :
    ∃ coroutine t n, (ensureFuture mach r l).run m = (.ok t, n) ∧ Memory.Alters [] m n ∧
      n.valueOf coroutine = .coroutine ⟨.created, [.wrapping r]⟩ ∧
      n.Holds t .task (.future ⟨l, .pending, [], [], some ⟨coroutine, false, none⟩⟩) ∧
      (n.object t).attributes = some [] := by
  have unlike : (isFutureLike mach r).run m = (.ok false, m) := by
    have absent := m.find_builtin .asyncGeneratorStep "_asyncio_future_blocking"
    rw [isFutureLike, run_memory_bind, run_memory_bind, step.cls, absent]
    rfl
  have awaits : m.special r "__await__" = some (.native .asyncGeneratorStep) := by
    rw [step.special]
    decide
  obtain ⟨coroutine, i, made, adds, created⟩ :=
    make_run .generator (.coroutine ⟨.created, [.wrapping r]⟩) m
  have loop' := adds.valueOf loop (by simp)
  obtain ⟨t, n, ran, alters, task, attributes, -⟩ := newTask_run loop' opened coroutine
  refine ⟨coroutine, t, n, ?_, (Memory.Alters.of_adds adds []).trans alters,
    alters.valueOf created (by simp) (by simp) List.not_mem_nil, task, attributes⟩
  obtain ⟨ready, stopping, closed, running, log⟩ := y
  obtain rfl : closed = false := opened
  rw [ensureFuture, run_bind_ok unlike]
  simp only [Bool.false_eq_true, if_false]
  rw [run_valueOf_bind, step.value]
  simp only [Bool.false_eq_true, if_false]
  rw [run_special_bind, awaits]
  simp only [Option.isSome_some, if_true]
  rw [run_bind_ok made]
  simp only [loopOf?, bind_assoc]
  rw [run_valueOf_bind, loop']
  exact ran

/-- A callback is added to a task that is pending. -/
theorem call_addCallback_pending (mach : Machine) {f d : Ref} {future : Future}
    (bound : m.valueOf f = .nativeMethod .task "add_done_callback" r)
    (value : m.valueOf r = .future future) (pending : future.outcome = .pending) :
    (callObject mach f [d] []).run m = (.ok Ref.none, m.changeFuture r fun f =>
      { f with callbacks := f.callbacks ++ [.call d] }) := by
  obtain ⟨loop, outcome, callbacks, removed, task⟩ := future
  obtain rfl : outcome = .pending := pending
  rw [callObject_native bound]
  refine callNative_named mach rfl ?_
  simp only [namedMethod]
  rw [run_valueOf_bind, value]
  have added : (addCallback r (.call d)).run m = (.ok (), m.changeFuture r fun f =>
      { f with callbacks := f.callbacks ++ [.call d] }) := by
    simp only [addCallback, futureOf?, bind_assoc]
    rw [run_valueOf_bind, value]
    rfl
  show (addCallback r (.call d) >>= fun _ => pure (some Ref.none)).run m = _
  rw [run_bind_ok added]
  rfl

end Eval

/-- A future that is changed keeps its class, and the attributes that programs have given it. -/
theorem Memory.changeFuture_object (m : Memory) (r : Ref) (f : Future → Future) :
    (m.changeFuture r f).classOf r = m.classOf r ∧
      ((m.changeFuture r f).object r).attributes = (m.object r).attributes := by
  rw [changeFuture]
  split
  · rcases object_set_self m r { m.object r with value := _ } with filled | cells
    · exact ⟨(congrArg Object.cls filled :), (congrArg Object.attributes filled :)⟩
    · have same := object_congr cells r
      exact ⟨congrArg Object.cls same, congrArg Object.attributes same⟩
  · exact ⟨rfl, rfl⟩

/-! ## Making a step -/

namespace Memory

/-- Whether an object is a step of a generator as it has been made. -/
structure IsStep (m : Memory) (r g : Ref) : Prop
    extends m.Holds r .asyncGeneratorStep (.asyncGeneratorStep g) where
  attributes : (m.object r).attributes = none

theorem IsStep.of_object (h : m.IsStep r g) (same : n.object r = m.object r) : n.IsStep r g :=
  ⟨⟨(congrArg Object.cls same).trans h.cls, (congrArg Object.value same).trans h.value⟩,
    (congrArg Object.attributes same).trans h.attributes⟩

theorem IsStep.adds (h : m.IsStep r g) (mn : m.Adds n) : n.IsStep r g :=
  h.of_object (mn.object (h.toHolds.has nofun))

/-- Neither a generator nor a step of one is a class. -/
theorem class?_of_generator
    (h : (∃ c, m.valueOf r = .asyncGenerator c) ∨ m.valueOf r = .asyncGeneratorStep g) :
    m.class? r = none := by
  cases r with
  | static s => rcases h with ⟨c, h⟩ | h <;> cases s <;> cases h
  | cell id =>
    refine class?_of_value fun info other => ?_
    rcases h with ⟨c, h⟩ | h <;> cases h.symm.trans other

end Memory

/-- A step can be awaited. -/
theorem Memory.IsStep.awaited {c : Handle} (step : m.IsStep c.ref g) (live : c.disposed = false) :
    ∃ n, Op.Returns (c.hasAttr "__await__") m true n ∧ m.Adds n :=
  Handle.hasAttr_native live rfl step.cls (Memory.class?_of_generator (.inr step.value)) step.attributes
    (show Builtin.definer? .asyncGeneratorStep "__await__" = some .asyncGeneratorStep by decide)
    (by decide) rfl rfl

/-! ## Setting up its task -/

namespace Bridge

open Op

/-- Whether a driver can start tasks: its handles are live, the function that makes tasks is that of
asyncio, and its loop is open. -/
structure DriverBindings.Ready (b : DriverBindings) (m : Memory) : Prop where
  object : b.object.disposed = false
  ensureFuture : b.ensureFuture.disposed = false
  stopOnDone : b.stopOnDone.disposed = false
  native : b.ensureFuture.ref = .static (.function "asyncio" "ensure_future")
  opened : ∃ y, m.valueOf b.object.ref = .loop y ∧ y.closed = false

variable {b : DriverBindings} {c : Handle} {frames : List Frame}

/-- What the driver asks asyncio for. -/
theorem ensureFuture_returns (ready : b.Ready m) (live : c.disposed = false)
    (step : m.IsStep c.ref g) :
    ∃ coroutine t n, Returns (b.ensureFuture.callWithKeywords [c] ["loop"] [b.object] none) m
        (Handle.adopt t) n ∧ Memory.Alters [] m n ∧
      n.valueOf coroutine = .coroutine ⟨.created, [.wrapping c.ref]⟩ ∧
      n.Holds t .task (.future ⟨b.object.ref, .pending, [], [], some ⟨coroutine, false, none⟩⟩) ∧
      (n.object t).attributes = some [] := by
  obtain ⟨y, loop, opened⟩ := ready.opened
  obtain ⟨i, prepared, adds⟩ :=
    preparation_adds b.ensureFuture.ref [c.ref] [("loop", b.object.ref)] m
  have callable : i.isCallable b.ensureFuture.ref = true := by
    rw [ready.native]
    rfl
  have named : Keywords.settled ([("loop", b.object.ref)].map fun p => (Text.ofString p.1, p.2)) =
      [(Text.ofString "loop", b.object.ref)] := rfl
  rw [callable, if_pos rfl, named] at prepared
  obtain ⟨coroutine, t, n, ran, alters, created, task, attributes⟩ :=
    ensureFuture_step (machine 999) (step.adds adds).toHolds (adds.valueOf loop nofun) opened
  refine ⟨coroutine, t, n, ?_, (Memory.Alters.of_adds adds []).trans alters, created, task,
    attributes⟩
  refine Handle.callWithKeywords_returns rfl (List.cons_ne_nil _ _) ?_ prepared ?_
  · simp [ready.object, ready.ensureFuture, live]
  · rw [Machine.top_call, ready.native]
    simp only [callObject, callModuleFunction, List.find?_cons, beq_self_eq_true]
    exact ran

/-- A driver starts a task for a step, which has not begun. -/
theorem startTask_returns (ready : b.Ready m) (live : c.disposed = false)
    (step : m.IsStep c.ref g) (rests : Rests g frames m) :
    ∃ coroutine t d n, Returns (startTask b c) m (Handle.adopt t, Handle.adopt d) n ∧
      (Errand.mk g c.ref coroutine t b.object.ref).Asks frames n := by
  obtain ⟨phase, idle, rests⟩ := rests
  obtain ⟨coroutine, t, i, made, alters, created, task, attributes⟩ :=
    ensureFuture_returns ready live step
  have step' := alters.valueOf step.value nofun nofun List.not_mem_nil
  have rests' := alters.valueOf rests nofun nofun List.not_mem_nil
  have unclassed : i.class? t = none := Memory.class?_of_asyncio (by rw [task.value]; rfl)
  have own {name : String} : ((i.object t).attributes.getD []).lookup name = none := by
    rw [attributes]
    rfl
  have read := getAttr_native Machine.top task.cls unclassed own
    (show Builtin.definer? .task "add_done_callback" = some .task by decide) (by decide) rfl rfl
  obtain ⟨f, j, makes, adds, bound⟩ :=
    make_run .nativeFunction (.nativeMethod .task "add_done_callback" t) i
  have added := call_addCallback_pending (d := b.stopOnDone.ref) (machine 999) bound
    (adds.valueOf task.value nofun) rfl
  have attached := Memory.Alters.changeFuture j t fun f =>
    { f with callbacks := f.callbacks ++ [.call b.stopOnDone.ref] }
  have noted := j.valueOf_changeFuture (adds.valueOf task.value nofun) fun f =>
    { f with callbacks := f.callbacks ++ [.call b.stopOnDone.ref] }
  obtain ⟨cls, attributes'⟩ := j.changeFuture_object t fun f =>
    { f with callbacks := f.callbacks ++ [.call b.stopOnDone.ref] }
  have before := adds.object (task.has nofun)
  generalize j.changeFuture t (fun f =>
    { f with callbacks := f.callbacks ++ [.call b.stopOnDone.ref] }) = k
    at added attached noted cls attributes'
  have done := getAttr_native Machine.top ((cls.trans (congrArg Object.cls before)).trans task.cls)
    (Memory.class?_of_asyncio (by rw [noted]; rfl))
    (show ((k.object t).attributes.getD []).lookup "done" = none by
      rw [attributes', before, attributes]
      rfl)
    (show Builtin.definer? .task "done" = some .task by decide) (by decide) rfl rfl
  obtain ⟨d, n, makes', adds', -⟩ := make_run .nativeFunction (.nativeMethod .task "done" t) k
  have prepared : Returns (do
      (← (Handle.adopt t).callMethod "add_done_callback" [b.stopOnDone]).drop
      (Handle.adopt t).getAttr "done") i (Handle.adopt d) n :=
    (Handle.callMethod_one_returns rfl ready.stopOnDone rfl (read.trans makes) added).bind
      ((Handle.drop_returns _ k).bind (Handle.getAttr_returns rfl rfl (done.trans makes')))
  have started : Returns (startTask b c) m (Handle.adopt t, Handle.adopt d) n := by
    rw [startTask]
    exact made.bind (prepared.attempt.bind (.pure _ n))
  refine ⟨coroutine, t, d, n, started, ?_⟩
  -- nothing that the errand needs is touched but the callbacks of the task
  have kept {s : Ref} {v : Value} (h : i.valueOf s = v) (some : v ≠ .plain)
      (unlooped : ∀ y, v ≠ .loop y) (other : ∀ f, v ≠ .future f) : n.valueOf s = v :=
    adds'.valueOf (attached.other (adds.valueOf task.value nofun) (adds.valueOf h some) some unlooped
      (other _)) some
  have task' := adds'.valueOf noted (by simp)
  refine ⟨⟨kept step' (by simp) (by simp) (by simp), ?_⟩, ⟨phase, idle, ?_⟩, ?_⟩
  · exact ⟨_, _, _, task'⟩
  · exact kept rests' (by simp) (by simp) (by simp)
  · exact kept created (by simp) (by simp) (by simp)

end Bridge

end EmbeddedPython
