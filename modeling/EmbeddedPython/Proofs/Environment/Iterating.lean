import EmbeddedPython.Bridge.Iteration
import EmbeddedPython.Proofs.Environment.Opening
import EmbeddedPython.Proofs.Environment.Telling
import EmbeddedPython.Proofs.Host.Naming

/-
  The end of an asynchronous iteration

  An iteration ends with the error of an awaited step, and is recognised by the
  name in it. So what ends an iteration is the name of the class of what the step
  raised, and nothing that `__anext__` raises before there is a step to await.
-/

namespace EmbeddedPython

open Activity Bridge

namespace Bridge.AsyncIterator

variable {x : AsyncIterator} {t : ThreadId} {p q : Process} {o : Outcome} {e : Error}

/-! ## What an outcome means -/

/-- Whether an outcome is taken for the end of an iteration. -/
def IsEnd (o : Outcome) : Prop :=
  ∃ e : PythonError, o = .error (.python e) ∧ e.typeName = endOfIteration

theorem isEnd_python {e : PythonError} :
    IsEnd (.error (.python e)) ↔ e.typeName = endOfIteration := by
  constructor
  · rintro ⟨e', h, name⟩
    cases h
    exact name
  · exact fun name => ⟨e, rfl, name⟩

theorem conclude_end (h : IsEnd o) : x.conclude o = (.ok none, { x with exhausted := true }) := by
  obtain ⟨e, rfl, name⟩ := h
  simp only [conclude, name, if_true]

theorem conclude_error (h : ¬ IsEnd (.error e)) : x.conclude (.error e) = (.error e, x) := by
  cases e with
  | python e =>
    rw [isEnd_python] at h
    simp only [conclude, h, if_false]
  | _ => rfl

theorem conclude_none_iff : (x.conclude o).1 = .ok none ↔ IsEnd o := by
  refine ⟨fun h => ?_, fun h => by rw [conclude_end h]⟩
  by_contra other
  cases o with
  | ok item => cases h
  | error e =>
    rw [conclude_error other] at h
    cases h

theorem conclude_exhausted_iff (fresh : x.exhausted = false) :
    (x.conclude o).2.exhausted = true ↔ IsEnd o := by
  refine ⟨fun h => ?_, fun h => by rw [conclude_end h]⟩
  by_contra other
  cases o with
  | ok item => exact absurd (fresh.symm.trans h) nofun
  | error e =>
    rw [conclude_error other] at h
    exact absurd (fresh.symm.trans h) nofun

/-! ## Asking for an item -/

/-- The call that makes the next step. -/
def nextStep (x : AsyncIterator) : Op Handle := x.iterator.callMethod "__anext__" []

theorem ask_exhausted (done : x.exhausted = true) : x.ask t p = ((.ready (.ok none), x), p) := by
  simp only [ask, done, if_true]
  rfl

theorem ask_raised (fresh : x.exhausted = false)
    (raised : Activity.ask t x.nextStep p = (.error e, q)) :
    x.ask t p = ((.ready (.error e), x), q) := by
  simp only [ask, fresh, Bool.false_eq_true, if_false, run_bind, show Activity.ask t
    (x.iterator.callMethod "__anext__" []) p = (.error e, q) from raised]
  rfl

theorem ask_made {step : Handle} (fresh : x.exhausted = false)
    (made : Activity.ask t x.nextStep p = (.ok step, q)) :
    (x.ask t p).1 = match (submit t x.loop step x.token q).1 with
      | .ok promise => (.waiting promise, x)
      | .error e => (.ready (x.conclude (.error e)).1, (x.conclude (.error e)).2) := by
  simp only [ask, fresh, Bool.false_eq_true, if_false, run_bind, show Activity.ask t
    (x.iterator.callMethod "__anext__" []) p = (.ok step, q) from made]
  cases (submit t x.loop step x.token q).1 <;> rfl

/-- How asking for items ends an iteration. -/
structure EndsByError (x : AsyncIterator) : Prop where
  /-- once it has ended there are no more items, and nothing is done -/
  finished : x.exhausted = true → ∀ t p, x.ask t p = ((.ready (.ok none), x), p)
  /-- whatever `__anext__` itself raises is returned, and ends nothing -/
  raised : x.exhausted = false → ∀ t p e q, Activity.ask t x.nextStep p = (.error e, q) →
    x.ask t p = ((.ready (.error e), x), q)
  /-- a step is awaited, if the loop takes it -/
  awaited : x.exhausted = false → ∀ t p step q, Activity.ask t x.nextStep p = (.ok step, q) →
    (x.ask t p).1 = match (submit t x.loop step x.token q).1 with
      | .ok promise => (.waiting promise, x)
      | .error e => (.ready (x.conclude (.error e)).1, (x.conclude (.error e)).2)
  item : ∀ v, x.conclude (.ok v) = (.ok (some v), x)
  /-- the error of a step ends the iteration by the name in it -/
  ended : ∀ o, IsEnd o → x.conclude o = (.ok none, { x with exhausted := true })
  /-- and is returned otherwise -/
  failed : ∀ e, ¬ IsEnd (.error e) → x.conclude (.error e) = (.error e, x)

theorem endsByError (x : AsyncIterator) : x.EndsByError where
  finished done _ _ := ask_exhausted done
  raised fresh _ _ _ _ := ask_raised fresh
  awaited fresh _ _ _ _ := ask_made fresh
  item _ := rfl
  ended _ := conclude_end
  failed _ := conclude_error

end Bridge.AsyncIterator

/-! ## The name of what a step raised -/

namespace Bridge.Tracked

open Op

variable {x : Tracked} {f : Future} {m : Memory} {e : Ref} {name : String} {err : PythonError}

/-- What a task has raised is told by the name of its class. -/
theorem outcome?_names (live : x.Live) (answers : m.Answers x.task.ref x.done.ref)
    (future : m.GenuineFuture x.task.ref f) (failed : f.outcome = .failed e)
    (exception : m.isException e .baseException = true) (named : m.GoesBy (m.classOf e) name)
    (t : ThreadId) {h : Host} (alive : h.lock.alive = true) (hm : h.memory = m)
    (told : (x.outcome?.perform t h).1 = .ok (some (.error (.python err)))) :
    err.typeName = name := by
  have done : f.outcome.isDone = true := by rw [failed]; rfl
  have uncancelled : f.outcome ≠ .cancelled := by rw [failed]; nofun
  have made : m.Has e := by
    by_contra absent
    rw [Memory.isException, Memory.isKind, Memory.isInstance, Memory.classOf,
      Memory.object_of_not_has absent] at exception
    cases exception
  have there : e ≠ Ref.none := by
    rintro rfl
    cases exception
  obtain ⟨i, hi, adds, alive, -⟩ := outcome?_goes_on live answers future done uncancelled t alive hm
  obtain ⟨n, more, raised⟩ := exception_returns live (future.adds adds) done uncancelled
  rw [failed] at raised
  obtain ⟨k, hk, km, alive, -⟩ := raised.bind_perform (fun e => e.spend translated?) t alive rfl
  have raised? : x.raised?.perform t i = ((Handle.adopt e).spend translated?).perform t k := hk
  have translated := translated?_perform there t alive
  have same : k.memory.classOf e = m.classOf e := by
    rw [km, Memory.classOf, (adds.trans more).object made]
    rfl
  have named' : k.memory.GoesBy (k.memory.classOf e) name := by
    rw [same, km]
    exact named.adds (adds.trans more)
  rw [hi, perform_bind, raised?] at told
  generalize ((Handle.adopt e).spend translated?).perform t k = b at translated told
  obtain ⟨r, j⟩ := b
  rcases translated with spent | ⟨err', rfl, translated⟩
  · cases spent
    cases told
  · cases told
    exact PythonError.ofException_names alive named' translated

end Bridge.Tracked

namespace System

open AsyncIterator

variable {s : System} {l : LoopId}

/-- How the exception that a step has raised decides about an iteration: `y` is the task of the step,
and `name` what the class of the exception goes by. -/
structure EndsByName (s : System) (x : AsyncIterator) (l : LoopId) (y : Tracked) (name : String) :
    Prop where
  learns : ∃ o, s.Learns (.drive l) y.promise o
  /-- it ends the iteration if it has the name of the end, whatever its class is, unless telling it
  uses up the stack -/
  ends : name = endOfIteration → ∀ o, s.Learns (.drive l) y.promise o →
    x.conclude o = (.ok none, { x with exhausted := true }) ∨
      (y.outcome?.perform (Process.driverThread l) s.process.host).1 = .error .overflow
  /-- under any other name it is returned, whatever its class descends from -/
  goesOn : name ≠ endOfIteration → ∀ o, s.Learns (.drive l) y.promise o →
    ∃ e, o = .error e ∧ x.conclude o = (.error e, x)

variable {n : Nat} {y : Tracked} {f : Future} {r : Ref} {name : String}

/-- The caller of a step that has raised something learns its name. -/
theorem learns_name (sound : s.Sound) (phase : (s.process.loop l).driver.phase = .concluding n)
    (here : (s.process.loop l).driver.tasks[n]? = some y)
    (awaited : (s.process.promise y.promise).awaited = true)
    (askable : y.Askable s.process.host.memory)
    (future : s.process.host.memory.GenuineFuture y.task.ref f) (failed : f.outcome = .failed r)
    (exception : s.process.host.memory.isException r .baseException = true)
    (named : s.process.host.memory.GoesBy (s.process.host.memory.classOf r) name) :
    ∃ o, (∀ o', s.Learns (.drive l) y.promise o' ↔ o' = o) ∧
      ((∃ err : PythonError, o = .error (.python err) ∧ err.typeName = name) ∨
        o = .error .eventLoopClosed ∧
          (y.outcome?.perform (Process.driverThread l) s.process.host).1 = .error .overflow) := by
  have alive := sound.alive fun he => nomatch phase.symm.trans he
  have learns (o : Bridge.Outcome) := learns_iff sound phase here awaited o
  simp only [Tracked.reports_iff] at learns
  rcases Tracked.outcome?_failed askable.live askable.answers future failed
    (Process.driverThread l) alive rfl with spent | ⟨err, told, -⟩
  · refine ⟨.error .eventLoopClosed, fun o' => ?_, .inr ⟨rfl, spent⟩⟩
    rw [learns, spent]
    exact ⟨fun h => (Option.some.inj h).symm, fun h => congrArg some h.symm⟩
  · have typed := Tracked.outcome?_names askable.live askable.answers future failed exception named
      (Process.driverThread l) alive rfl told
    refine ⟨.error (.python err), fun o' => ?_, .inl ⟨err, rfl, typed⟩⟩
    rw [learns, told]
    exact ⟨fun h => (Option.some.inj h).symm, fun h => congrArg some h.symm⟩

theorem endsByName (x : AsyncIterator) (sound : s.Sound)
    (phase : (s.process.loop l).driver.phase = .concluding n)
    (here : (s.process.loop l).driver.tasks[n]? = some y)
    (awaited : (s.process.promise y.promise).awaited = true)
    (askable : y.Askable s.process.host.memory)
    (future : s.process.host.memory.GenuineFuture y.task.ref f) (failed : f.outcome = .failed r)
    (exception : s.process.host.memory.isException r .baseException = true)
    (named : s.process.host.memory.GoesBy (s.process.host.memory.classOf r) name) :
    s.EndsByName x l y name := by
  obtain ⟨o, only, what⟩ :=
    learns_name sound phase here awaited askable future failed exception named
  refine ⟨⟨o, (only o).mpr rfl⟩, fun same o' learnt => ?_, fun other o' learnt => ?_⟩
  · obtain rfl := (only o').mp learnt
    rcases what with ⟨err, rfl, typed⟩ | ⟨-, spent⟩
    · exact .inl (conclude_end (isEnd_python.mpr (typed.trans same)))
    · exact .inr spent
  · obtain rfl := (only o').mp learnt
    rcases what with ⟨err, rfl, typed⟩ | ⟨rfl, -⟩
    · refine ⟨_, rfl, conclude_error fun h => other ?_⟩
      exact typed.symm.trans (isEnd_python.mp h)
    · exact ⟨_, rfl, rfl⟩

/-- An iteration is ended by the error of a step, and in every run this error ends it exactly if the
class of what the step raised has the name of the end. -/
theorem iteration_ends_by_name (x : AsyncIterator) :
    x.EndsByError ∧ ∀ attached actions l n y f r name,
      let p := (run attached actions).process
      (p.loop l).driver.phase = .concluding n → (p.loop l).driver.tasks[n]? = some y →
      (p.promise y.promise).awaited = true → p.host.memory.GenuineFuture y.task.ref f →
      f.outcome = .failed r → p.host.memory.isException r .baseException = true →
      p.host.memory.GoesBy (p.host.memory.classOf r) name →
      (run attached actions).EndsByName x l y name := by
  refine ⟨x.endsByError, ?_⟩
  intro attached actions l n y f r name p phase here awaited future failed exception named
  have askable := askable_run attached actions l y (List.mem_append_left _ (List.mem_of_getElem? here))
  exact endsByName x (sound_run attached actions) phase here awaited askable future failed
    exception named

/-- A program makes a coroutine that raises the end of an iteration. -/
def makeEnding : Op Unit := do
  let _ ← Op.request [] (Eval.make .coroutine
    (.coroutine ⟨.created, [.steps [.raise (.exception "StopAsyncIteration" [])]]⟩))

/-- The coroutine is submitted and has been run, and the driver is to look at its task. -/
def ending : List Action :=
  [.start 0 Options.default, .proceed 0] ++ [.openLoop 0 0, .operate 0 makeEnding,
    .submit 0 0 (Handle.adopt (.cell 11)) ⟨none⟩, .proceed 0, .proceed 0] ++
  List.replicate 19 (.drive 0)

/-- The task of that coroutine. -/
def endingTask : Tracked := ⟨1, Handle.adopt (.cell 16), Handle.adopt (.cell 18), 0, .nothing⟩

theorem ending_state : ((run true ending).process.loop 0).driver.phase = .concluding 0 ∧
    ((run true ending).process.loop 0).driver.tasks = [endingTask] ∧
    ((run true ending).process.promise 0).awaited = true ∧
    ((run true ending).process.host.memory.object (.cell 16)).seen ⟨Ref.ofBuiltin .task, .future
      ⟨.cell 7, .failed (.cell 19), [], [], some ⟨.cell 11, false, none⟩⟩, some []⟩ = true ∧
    (run true ending).process.host.memory.customized = [] ∧
    (run true ending).process.host.memory.classOf (.cell 19) =
      Ref.ofExceptionClass .stopAsyncIteration ∧
    (endingTask.outcome?.perform (Process.driverThread 0) (run true ending).process.host).1 ≠
      .error .overflow := by
  rw [ending, List.append_assoc, run_started]
  decide +kernel

/-- An iteration that waits for that task. -/
def asking : AsyncIterator := ⟨0, Handle.adopt (.cell 11), ⟨none⟩, false⟩

/-- It ends when the driver looks at the task. -/
theorem raised_end_ends_iteration :
    (run true ending).EndsByName asking 0 endingTask endOfIteration ∧
    ∃ o, (run true ending).Learns (.drive 0) 0 o ∧
      asking.conclude o = (.ok none, { asking with exhausted := true }) := by
  obtain ⟨phase, tasks, awaited, task, customized, cls, fits⟩ := ending_state
  have object := Object.eq_of_seen task
  have future : (run true ending).process.host.memory.GenuineFuture endingTask.task.ref
      ⟨.cell 7, .failed (.cell 19), [], [], some ⟨.cell 11, false, none⟩⟩ :=
    ⟨congrArg Object.value object, .inr ⟨congrArg Object.cls object,
      congrArg Object.attributes object, by rw [customized]; exact List.not_mem_nil⟩⟩
  have named : (run true ending).process.host.memory.GoesBy
      ((run true ending).process.host.memory.classOf (.cell 19)) endOfIteration :=
    cls ▸ Memory.goesBy_builtin _ (.exception .stopAsyncIteration)
  have exception : (run true ending).process.host.memory.isException (.cell 19) .baseException =
      true := by
    rw [Memory.isException, Memory.isKind, Memory.isInstance, cls]
    rfl
  have ends := (iteration_ends_by_name asking).2 true ending 0 0 endingTask _ _ _ phase
    (by rw [tasks]; rfl) awaited future rfl exception named
  obtain ⟨o, learns⟩ := ends.learns
  exact ⟨ends, o, learns, (ends.ends rfl o learns).resolve_right fits⟩

/-! ## Ends that are not taken for ends -/

/-- A process with an object whose `__anext__` raises what ends an iteration at once. -/
def stopping : Process :=
  let ended : Object :=
    ⟨Ref.ofExceptionClass .stopAsyncIteration, .exception [] .nothing, some []⟩
  let raiser : Object := ⟨Ref.ofBuiltin .function,
    .function ⟨"__anext__", .anything, [], [], .raiser (.existing (.cell 0))⟩, some []⟩
  let iterator : Object := ⟨Ref.ofBuiltin .object, .plain, some [("__anext__", .cell 1)]⟩
  { Process.attached with
    host := { Host.fresh with memory := { Memory.fresh with cells := #[ended, raiser, iterator] } } }

/-- An iterator over that object. -/
def stopper : AsyncIterator := ⟨0, Handle.adopt (.cell 2), ⟨none⟩, false⟩

/-- The process after `__anext__` has raised. -/
def stopped : Process := (Activity.ask 0 stopper.nextStep stopping).2

/-- What `__anext__` raises itself is returned even if it is the end of an iteration. -/
theorem end_raised_at_once_is_returned : ¬ ∀ (t : ThreadId) (x : AsyncIterator) (p q : Process)
    (e : Error) (cls r : Ref), x.exhausted = false → Activity.ask t x.nextStep p = (.error e, q) →
    q.host.raised = ⟨cls, some r⟩ :: p.host.raised →
    q.host.memory.isException r .stopAsyncIteration = true →
    (x.ask t p).1.1 = .ready (.ok none) := by
  intro ends
  have told : (Activity.ask 0 stopper.nextStep stopping).1 =
      .error (.python ⟨"StopAsyncIteration", ""⟩) := by decide +kernel
  have raised : stopped.host.raised =
      ⟨Ref.ofExceptionClass .stopAsyncIteration, some (.cell 0)⟩ :: stopping.host.raised := by
    decide +kernel
  have ended : stopped.host.memory.isException (.cell 0) .stopAsyncIteration = true := by
    decide +kernel
  have asked : Activity.ask 0 stopper.nextStep stopping =
      (.error (.python ⟨"StopAsyncIteration", ""⟩), stopped) := Prod.ext told rfl
  have wrong := ends 0 stopper stopping stopped _ _ _ rfl asked raised ended
  rw [ask_raised rfl asked] at wrong
  cases wrong

end System

end EmbeddedPython
