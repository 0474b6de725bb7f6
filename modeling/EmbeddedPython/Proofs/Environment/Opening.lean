import EmbeddedPython.Proofs.Bridge.Idle
import EmbeddedPython.Proofs.Environment.History

/-
  Runs that begin with an environment

  An environment that is started imports two modules, and how a name is split
  into its parts cannot be computed in a proof. Both names have one part, so the
  modules are imported by these, and what a run comes to that begins with the
  start of an environment can be computed. Values cannot be compared in general,
  but those of tasks and of what takes part in asking a generator can.
-/

namespace EmbeddedPython

open Activity Bridge

/-! ## Seeing what a run has come to -/

/-- Whether two stacks of frames are seen to be the same: those of a generator of one item, and of a
task that awaits its step. -/
def Frame.seen : List Frame → List Frame → Bool
  | [], [] => true
  | [.generating []], [.generating []] => true
  | [.generating [.emit .none]], [.generating [.emit .none]] => true
  | [.wrapping r], [.wrapping s] => r == s
  | _, _ => false

theorem Frame.eq_of_seen {fs gs : List Frame} (h : seen fs gs = true) : fs = gs := by
  unfold seen at h
  split at h
  · rfl
  · rfl
  · rfl
  · rw [eq_of_beq h]
  · cases h

def Coroutine.seen (c d : Coroutine) : Bool := c.phase == d.phase && Frame.seen c.frames d.frames

theorem Coroutine.eq_of_seen {c d : Coroutine} (h : c.seen d = true) : c = d := by
  obtain ⟨phase, frames⟩ := (Bool.and_eq_true _ _).mp h
  cases c
  cases d
  exact congr (congrArg Coroutine.mk (eq_of_beq phase)) (Frame.eq_of_seen frames)

def Value.seen : Value → Value → Bool
  | .asyncGenerator c, .asyncGenerator d => c.seen d
  | .coroutine c, .coroutine d => c.seen d
  | .asyncGeneratorStep g, .asyncGeneratorStep h => g == h
  | .future f, .future g => f == g
  | _, _ => false

theorem Value.eq_of_seen {v w : Value} (h : v.seen w = true) : v = w := by
  unfold seen at h
  split at h
  · rw [Coroutine.eq_of_seen h]
  · rw [Coroutine.eq_of_seen h]
  · rw [eq_of_beq h]
  · rw [eq_of_beq h]
  · cases h

def Object.seen (o u : Object) : Bool :=
  o.cls == u.cls && o.value.seen u.value && o.attributes == u.attributes

theorem Object.eq_of_seen {o u : Object} (h : o.seen u = true) : o = u := by
  obtain ⟨both, attributes⟩ := (Bool.and_eq_true _ _).mp h
  obtain ⟨cls, value⟩ := (Bool.and_eq_true _ _).mp both
  cases o
  cases u
  exact congr (congr (congrArg Object.mk (eq_of_beq cls)) (Value.eq_of_seen value))
    (eq_of_beq attributes)

/-! ## The start of an environment -/

namespace Host

/-- How a module is imported whose name has one part. -/
def importPart (name : String) : Op Handle := Op.guarded (Op.request [] do
  match (← Eval.importParts "" none [name]) with
  | some r => pure r
  | none => pure Ref.none)

theorem importModule_single {name : String} (parts : name.splitOn "." = [name])
    (terminates : terminated name = .ok name) (named : name ≠ "") (other : name ≠ "os") :
    importModule name = importPart name := by
  have imports : Eval.importModule name = (do
      match (← Eval.importParts "" none [name]) with
      | some r => pure r
      | none => pure Ref.none) := by
    have apart : ¬ ([name] == ["os"]) = true := by simpa using other
    rw [Eval.importModule, if_neg (by simpa using named), parts]
    dsimp only
    rw [ite_self]
    exact if_neg apart
  rw [importModule, terminates, importPart, ← imports]
  rfl

theorem importModule_asyncio : importModule "asyncio" = importPart "asyncio" := by
  refine importModule_single ?_ rfl (by decide) (by decide)
  rw [String.splitOn, if_neg (by decide)]
  repeat (rw [String.splitOnAux]; simp +decide only [if_neg, if_pos])

theorem importModule_builtins : importModule "builtins" = importPart "builtins" := by
  refine importModule_single ?_ rfl (by decide) (by decide)
  rw [String.splitOn, if_neg (by decide)]
  repeat (rw [String.splitOnAux]; simp +decide only [if_neg, if_pos])

/-- Fresh names for a program, in a form that can be computed. -/
def partGlobals : Op Handle := Op.guarded do
  let globals ← Op.request [] (Eval.newDict Machine.top [])
  let fill : Op Unit := do
    Handle.spend (← importPart "builtins") fun builtins => do
      Handle.spend (← (HostValue.text "__builtins__").toHandle) fun key =>
        Op.askDone [globals.ref, key.ref, builtins.ref]
          (Eval.setKey Machine.top globals.ref key.ref builtins.ref)
  Op.onFailure fill globals.drop
  pure globals

/-- The value of an expression with fresh names, in a form that can be computed. -/
def partEvaluate (expression : String) : Op Handle := do
  Handle.spend (← partGlobals) fun globals => evaluate expression globals

theorem evaluateAlone_eq (expression : String) :
    evaluateAlone expression = partEvaluate expression := by
  rw [evaluateAlone, newGlobals, importModule_builtins]
  rfl

end Host

/-- What an environment needs that is started with default options, in a form that can be
computed. -/
def partBindings : Op Bindings := Op.guarded do
  Handle.spend (← Host.importPart "asyncio") fun asyncio => do
    let newEventLoop ← asyncio.getAttr "new_event_loop"
    Op.onFailure
      (do
        let ensureFuture ← asyncio.getAttr "ensure_future"
        Op.onFailure
          (do
            let stopOnDone ← Host.partEvaluate stopOnDoneSource
            pure ⟨newEventLoop, ensureFuture, stopOnDone⟩)
          ensureFuture.drop)
      newEventLoop.drop

theorem resolveBindings_default : resolveBindings Options.default = partBindings := by
  have none : (!Options.default.searchPaths.isEmpty) = false := rfl
  simp only [resolveBindings, none, Bool.false_eq_true, if_false, Host.importModule_asyncio,
    Host.evaluateAlone_eq, partBindings]

namespace Chore

/-- What an environment needs that is started with default options is resolved, in a form that can
be computed. -/
def resolvePart (t : ThreadId) (e : EnvironmentId) : Activity Chores := do
  match (← ask t partBindings) with
  | .ok b => do
    modifyEnvironment e fun x => { x with bindings := some b }
    pure []
  | .error _ => closing t e

theorem run_resolve {p : Process} {e : EnvironmentId} (t : ThreadId)
    (options : (p.environment e).options = Options.default) :
    run t (.resolve e) p = resolvePart t e p := by
  rw [run, Activity.resolve, run_bind, run_get_bind, options, resolveBindings_default, run_bind,
    resolvePart, run_bind]
  generalize ask t partBindings p = b
  obtain ⟨_ | _, _⟩ := b <;> rfl

end Chore

namespace System

/-- What a run comes to that begins with the start of an environment, whose needs are resolved, in
a form that can be computed. -/
theorem run_started (rest : List Action) :
    run true ([.start 0 Options.default, .proceed 0] ++ rest) =
      rest.foldl step (after [] (Chore.resolvePart 0 0)
        ((initial true).step (.start 0 Options.default)).process) := by
  have options : (((initial true).step (.start 0 Options.default)).process.environment 0).options =
      Options.default := rfl
  rw [run_append, after, ← Chore.run_resolve 0 options]
  rfl

/-- A program makes coroutines, one of which exits. -/
def makeCoroutines : Op Unit := do
  let _ ← Op.request [] (Eval.make .coroutine (.coroutine ⟨.created, [.pausing 5]⟩))
  let _ ← Op.request [] (Eval.make .coroutine
    (.coroutine ⟨.created, [.steps [.raise (.exception "SystemExit" [])]]⟩))
  let _ ← Op.request [] (Eval.make .coroutine (.coroutine ⟨.created, [.pausing 5]⟩))

end System

end EmbeddedPython
