import EmbeddedPython.Environment.Basic
import EmbeddedPython.Proofs.Asyncio.Method
import Mathlib

/-
  The callback of every task

  The callback is a lambda of one line. Whoever calls it with a future tells the
  loop of the future to stop, as long as asyncio has made the two.
-/

namespace EmbeddedPython

open EmbeddedPython.Language

namespace Memory

/-- What the callback evaluates. -/
def stopExpression : Expression :=
  .call (.attribute (.call (.attribute (.name "fut") "get_loop") []) "stop") []

/-- Whether a reference is to the callback that stops the loop of a future. -/
def IsStopOnDone (m : Memory) (r : Ref) : Prop :=
  ∃ (name : String) (scope : Scope), m.valueOf r =
    .function ⟨name, ⟨[], ["fut"], none, [], none⟩, [], [], .expression stopExpression scope⟩

theorem Evolves.isStopOnDone {m n : Memory} (h : m.Evolves n) {r : Ref} (hr : m.IsStopOnDone r) :
    n.IsStopOnDone r := by
  obtain ⟨name, scope, hv⟩ := hr
  obtain ⟨name', hv'⟩ := h.function hv
  exact ⟨name', scope, hv'⟩

end Memory

/-- What the text of the callback says. -/
theorem stopOnDoneSource_reads :
    Expression.ofSource stopOnDoneSource =
      .ok (.lambda ⟨[], ["fut"], none, [], none⟩ [] Memory.stopExpression) := by
  cbv

namespace Eval

variable {m : Memory} {f t : Ref}

theorem callObject_function {g : Function} (h : m.valueOf f = .function g) (mach : Machine)
    (arguments : List Ref) (keywords : List (Text × Ref)) :
    (callObject mach f arguments keywords).run m =
      (callFunction mach g arguments keywords).run m := by
  cases f with
  | static s => cases s <;> cases h
  | cell id =>
    have unclassed : m.class? (.cell id) = none :=
      Memory.class?_of_value fun info hc => by rw [h] at hc; cases hc
    simp only [callObject, run_memory_bind, unclassed, Option.isSome_none, Bool.false_eq_true, if_false]
    rw [run_valueOf_bind, h]

theorem bind_stopOnDone (mach : Machine) (name : String) (scope : Scope) (t : Ref) :
    bindArguments mach
      ⟨name, ⟨[], ["fut"], none, [], none⟩, [], [], .expression Memory.stopExpression scope⟩ [t] [] =
      pure [("fut", t)] := by
  rfl

/-- Evaluating the text of the callback makes the callback. -/
theorem evaluateSource_stopOnDone (mach : Machine) (globals : Ref) (m : Memory) :
    ∃ o, (evaluateSource mach globals stopOnDoneSource).run m = (.ok (m.alloc o).1, (m.alloc o).2) ∧
      (m.alloc o).2.IsStopOnDone (m.alloc o).1 := by
  have reads := stopOnDoneSource_reads
  unfold evaluateSource
  generalize Expression.ofSource stopOnDoneSource = e at reads ⊢
  subst reads
  simp only [evaluate, evaluateDefaults, pure_bind, newCode]
  exact ⟨_, rfl, _, _, congrArg Object.value (m.object_alloc_new _)⟩

/-- A name of the function itself is read first. -/
theorem readName_own {scope : Scope} {cell : Ref} {name : String} {bindings : List (String × Ref)}
    {r : Ref} (declared : scope.declared = []) (locals : scope.locals = some cell)
    (names : m.valueOf cell = .names bindings) (found : bindings.lookup name = some r) :
    (readName scope name).run m = (.ok r, m) := by
  have own : (namesIn cell).run m = (.ok bindings, m) := by
    simp only [namesIn]
    rw [run_valueOf_bind, names]
    rfl
  simp only [readName, declared, List.contains_nil, Bool.false_eq_true, if_false, locals]
  rw [run_bind_ok own]
  simp only [found, pure_bind, run_pure]

/-- What the callback does where its name stands for a future. -/
theorem evaluate_stopExpression {scope : Scope} {cell : Ref} {g : Future} (depth : Nat)
    (declared : scope.declared = []) (locals : scope.locals = some cell)
    (names : m.valueOf cell = .names [("fut", t)]) (ht : m.GenuineFuture t g)
    (hl : m.GenuineLoop g.loop) :
    ((evaluate (machine (depth + 1)) scope Memory.stopExpression).run m).2.Halted g.loop := by
  have read : (readName scope "fut").run m = (.ok t, m) := readName_own declared locals names rfl
  obtain ⟨o, ho, get⟩ :=
    getAttr_future (machine (depth + 1)) ht (show "get_loop" ∈ futureQueries by decide)
  obtain ⟨b, m₁, made, a₁, bound⟩ := make_run .nativeFunction (.nativeMethod o "get_loop" t) m
  have loop := call_getLoop (machine depth) ho bound (a₁.valueOf ht.value nofun)
  have hl₁ := hl.adds a₁
  have stop := getAttr_loop (machine (depth + 1)) hl₁ (.inl rfl)
  obtain ⟨s, m₂, made', a₂, bound'⟩ :=
    make_run .nativeFunction (.nativeMethod .eventLoop "stop" g.loop) m₁
  have hl₂ := hl₁.adds a₂
  have stopped := call_stop (machine depth) bound' hl₂.loop []
  rw [Memory.stopExpression]
  simp only [evaluate, evaluateArguments, bind_assoc, pure_bind, machine_call]
  rw [run_bind_ok read, run_bind_ok (get.trans made), run_bind_ok loop,
    run_bind_ok (stop.trans made'), stopped]
  intro y hy
  obtain ⟨x, hx⟩ := hl₂.loop
  rw [Memory.valueOf_changeLoop hx] at hy
  cases hy
  exact .inr rfl

/-- Calling the callback with a future stops the loop of the future. -/
theorem call_stopOnDone {g : Future} (depth : Nat) (hf : m.IsStopOnDone f)
    (ht : m.GenuineFuture t g) (hl : m.GenuineLoop g.loop) :
    ((callObject (machine (depth + 1)) f [t] []).run m).2.Halted g.loop := by
  obtain ⟨name, scope, hv⟩ := hf
  rw [callObject_function hv]
  simp only [callFunction]
  rw [bind_stopOnDone, pure_bind]
  simp only [runExpression, callScope, bind_assoc]
  obtain ⟨cell, m₁, made, a₁, names⟩ := make_run .function (.names [("fut", t)]) m
  rw [run_bind_ok made, pure_bind]
  have declared : (Statement.declarationsAll [.expression Memory.stopExpression]).1 = [] := rfl
  exact evaluate_stopExpression depth declared rfl names (ht.adds a₁) (hl.adds a₁)

/-- Running an entry that calls something calls it, with nothing else done to the objects before. -/
theorem runReady_call (loop f : Ref) (arguments : List Ref) (m : Memory) : ∃ n, m.Adds n ∧
    ((callObject (machine 999) f arguments []).run n).2.Evolves
      ((runReady Machine.top loop (.call f arguments)).run m).2 := by
  let n : Memory := { m with runningLoop := some loop }
  refine ⟨n, .of_cells rfl rfl, ?_⟩
  have called := bind_evolves (callObject (machine 999) f arguments []) (fun _ => pure ()) n
  have entered : ((callObject (machine 999) f arguments []).run n).2.Evolves
      ((runEntry Machine.top (.call f arguments)).run n).2 :=
    called.trans (tryCatch_evolves _ _ n)
  have caught : ((runEntry Machine.top (.call f arguments)).run n).2.Evolves
      ((caught (runEntry Machine.top (.call f arguments))).run n).2 :=
    (bind_evolves _ _ n).trans (tryCatch_evolves _ _ n)
  refine (entered.trans caught).trans ?_
  exact bind_evolves _ _ n

end Eval

end EmbeddedPython
