import EmbeddedPython.Proofs.Interpreter.Method

/-
  Methods of loops and futures

  What the bound methods of a loop and of a future do, whatever else there is
  in the memory.
-/

namespace EmbeddedPython

namespace Memory

/-- Whether an object is a loop as asyncio makes them. -/
structure GenuineLoop (m : Memory) (r : Ref) : Prop where
  loop : m.IsLoop r
  genuine : m.Genuine r .eventLoop

/-- Whether an object is a future or a task as asyncio makes them, and stands as given. -/
structure GenuineFuture (m : Memory) (r : Ref) (f : Future) : Prop where
  value : m.valueOf r = .future f
  genuine : m.Genuine r .future ∨ m.Genuine r .task

/-- Whether the loop that a reference is to has been told to stop, or has been closed. -/
def Halted (m : Memory) (r : Ref) : Prop :=
  ∀ x, m.valueOf r = .loop x → x.closed = true ∨ x.stopping = true

theorem GenuineLoop.adds {m n : Memory} {r : Ref} (hr : m.GenuineLoop r) (h : m.Adds n) :
    n.GenuineLoop r := by
  obtain ⟨x, hx⟩ := hr.loop
  have made : m.Has r := has_of_value (by rw [hx]; nofun)
  exact ⟨⟨x, h.valueOf hx nofun⟩, h.genuine made hr.genuine⟩

theorem GenuineFuture.adds {m n : Memory} {r : Ref} {f : Future} (hr : m.GenuineFuture r f)
    (h : m.Adds n) : n.GenuineFuture r f := by
  have made : m.Has r := has_of_value (by rw [hr.value]; nofun)
  exact ⟨h.valueOf hr.value nofun, hr.genuine.imp (h.genuine made) (h.genuine made)⟩

theorem Evolves.halted {m n : Memory} (h : m.Evolves n) {r : Ref} (hl : m.IsLoop r)
    (hr : m.Halted r) : n.Halted r := by
  obtain ⟨x, hx⟩ := hl
  obtain ⟨y, hy, hxy⟩ := h.loop hx
  intro z hz
  rw [hy] at hz
  cases hz
  exact (hr x hx).imp hxy.closed hxy.stopping

end Memory

/-- The operations that the host asks for are those of all levels. -/
theorem Machine.top_call : Machine.top.call = Eval.callObject (machine 999) := rfl

theorem machine_call (n : Nat) : (machine (n + 1)).call = Eval.callObject (machine n) := rfl

namespace Eval

variable {m : Memory} {f r : Ref}

/-! ## Methods of a loop -/

/-- Stopping a loop sets its flag. -/
theorem call_stop (mach : Machine) (h : m.valueOf f = .nativeMethod .eventLoop "stop" r)
    (loop : m.IsLoop r) (arguments : List Ref) : (callObject mach f arguments []).run m =
      (.ok Ref.none, m.changeLoop r fun x => { x with stopping := true }) := by
  obtain ⟨x, hx⟩ := loop
  rw [callObject_native h]
  refine callNative_named mach rfl ?_
  simp only [namedMethod]
  rw [run_valueOf_bind, hx]
  rfl

/-- What is called soon is due. -/
theorem callSoon_due (loop : Ref) (entry : Scheduled) (m : Memory) :
    ((callSoon loop entry).run m).2.Due loop entry := by
  by_cases hl : ∃ x, m.valueOf loop = .loop x ∧ x.closed = true
  · obtain ⟨x, hx, hc⟩ := hl
    refine ((callSoon loop entry).evolves m).due ⟨x, hx⟩ fun y hy => ?_
    rw [hx] at hy
    cases hy
    exact .inl hc
  · have opened : (callSoon loop entry).run m = (.ok (), m.schedule loop [entry]) := by
      simp only [callSoon, loopOf?, bind_assoc]
      rw [run_valueOf_bind]
      split
      next x hx =>
        have hc : x.closed = false := by
          cases hc : x.closed
          · rfl
          · exact absurd ⟨x, hx, hc⟩ hl
        obtain ⟨ready, stopping, closed, running, log⟩ := x
        obtain rfl : closed = false := hc
        rfl
      next => rfl
    rw [opened]
    exact m.due_schedule loop List.mem_cons_self

theorem call_callSoon (mach : Machine)
    (h : m.valueOf f = .nativeMethod .eventLoop "call_soon_threadsafe" r) (loop : m.IsLoop r)
    (g : Ref) : ((callObject mach f [g] []).run m).2.Due r (.call g []) := by
  obtain ⟨x, hx⟩ := loop
  have named : (namedMethod mach .eventLoop "call_soon_threadsafe" r [g] []).run m =
      (callSoon r (.call g []) >>= fun _ => pure (some Ref.none)).run m := by
    simp only [namedMethod]
    rw [run_valueOf_bind, hx]
    rfl
  have due := callSoon_due r (.call g []) m
  rw [callObject_native h]
  rw [run_bind] at named
  revert named due
  generalize (callSoon r (.call g [])).run m = b
  obtain ⟨e | _, n⟩ := b <;> intro named due
  · rw [callNative_failing mach rfl named]
    exact due
  · rw [callNative_named mach rfl named]
    exact due

/-! ## Methods of a future -/

variable {c : Builtin} {g : Future}

/-- Calling a method of a future without arguments. -/
theorem call_future {name : String} {v : Ref} {n : Memory} (mach : Machine)
    (hc : c = .future ∨ c = .task) (h : m.valueOf f = .nativeMethod c name r)
    (future : m.valueOf r = .future g) (plain : isClassMethod c name = false)
    (answer : (futureMethod mach r g name []).run m = (.ok (some v), n)) :
    (callObject mach f [] []).run m = (.ok v, n) := by
  rw [callObject_native h]
  refine callNative_named mach plain (Eq.trans ?_ answer)
  simp only [namedMethod]
  rw [run_valueOf_bind, future]
  rcases hc with rfl | rfl <;> rfl

theorem call_done (mach : Machine) (hc : c = .future ∨ c = .task)
    (h : m.valueOf f = .nativeMethod c "done" r) (future : m.valueOf r = .future g) :
    (callObject mach f [] []).run m = (.ok (Ref.ofBool g.outcome.isDone), m) :=
  call_future mach hc h future (by rcases hc with rfl | rfl <;> rfl) rfl

theorem call_getLoop (mach : Machine) (hc : c = .future ∨ c = .task)
    (h : m.valueOf f = .nativeMethod c "get_loop" r) (future : m.valueOf r = .future g) :
    (callObject mach f [] []).run m = (.ok g.loop, m) :=
  call_future mach hc h future (by rcases hc with rfl | rfl <;> rfl) rfl

theorem call_cancelled (mach : Machine) (hc : c = .future ∨ c = .task)
    (h : m.valueOf f = .nativeMethod c "cancelled" r) (future : m.valueOf r = .future g) :
    (callObject mach f [] []).run m = (.ok (Ref.ofBool (g.outcome == .cancelled)), m) :=
  call_future mach hc h future (by rcases hc with rfl | rfl <;> rfl) rfl

/-- What a future that has not been cancelled answers when it is asked for its exception. -/
def raisedOf : FutureOutcome → Ref
  | .failed e => e
  | _ => Ref.none

theorem call_exception (mach : Machine) (hc : c = .future ∨ c = .task)
    (h : m.valueOf f = .nativeMethod c "exception" r) (future : m.valueOf r = .future g)
    (done : g.outcome.isDone = true) (uncancelled : g.outcome ≠ .cancelled) :
    (callObject mach f [] []).run m = (.ok (raisedOf g.outcome), m) := by
  refine call_future mach hc h future (by rcases hc with rfl | rfl <;> rfl) ?_
  show (futureException r >>= fun v => pure (some v)).run m = _
  simp only [futureException, futureOf?, bind_assoc]
  rw [run_valueOf_bind, future]
  cases ho : g.outcome with
  | pending =>
    rw [ho] at done
    cases done
  | cancelled => exact absurd ho uncancelled
  | result v =>
    simp only [pure_bind, ho]
    rfl
  | failed e =>
    simp only [pure_bind, ho]
    rfl

theorem call_result {v : Ref} (mach : Machine) (hc : c = .future ∨ c = .task)
    (h : m.valueOf f = .nativeMethod c "result" r) (future : m.valueOf r = .future g)
    (result : g.outcome = .result v) : (callObject mach f [] []).run m = (.ok v, m) := by
  refine call_future mach hc h future (by rcases hc with rfl | rfl <;> rfl) ?_
  show (futureResult r >>= fun v => pure (some v)).run m = _
  simp only [futureResult, futureOf?, bind_assoc]
  rw [run_valueOf_bind, future]
  simp only [pure_bind, result]
  rfl

/-- What a future has raised it raises again. -/
theorem call_result_failed {e : Ref} (mach : Machine) (hc : c = .future ∨ c = .task)
    (h : m.valueOf f = .nativeMethod c "result" r) (future : m.valueOf r = .future g)
    (failed : g.outcome = .failed e) : (callObject mach f [] []).run m = (.error e, m) := by
  have named : (namedMethod mach c "result" r [] []).run m = (.error e, m) := by
    have asked : (namedMethod mach c "result" r [] []).run m =
        (futureResult r >>= fun v => pure (some v)).run m := by
      simp only [namedMethod]
      rw [run_valueOf_bind, future]
      rcases hc with rfl | rfl <;> rfl
    rw [asked]
    simp only [futureResult, futureOf?, bind_assoc]
    rw [run_valueOf_bind, future]
    simp only [pure_bind, failed]
    rfl
  rw [callObject_native h]
  exact callNative_failing mach (by rcases hc with rfl | rfl <;> rfl) named

/-- An added callback is there, or ready at once. -/
theorem addCallback_keeps (future : m.valueOf r = .future g) (d : Callback) :
    ∃ k, ((addCallback r d).run m).2.valueOf r = .future k ∧ k.loop = g.loop ∧
      ((addCallback r d).run m).2.Keeps r k d := by
  have reached : (addCallback r d).run m = (if g.outcome.isDone then callSoon g.loop (d.entry r)
      else modifyFuture r (fun f => { f with callbacks := f.callbacks ++ [d] }) (.add · d)).run m := by
    simp only [addCallback, futureOf?, bind_assoc]
    rw [run_valueOf_bind, future]
    rfl
  rw [reached]
  cases hg : g.outcome.isDone with
  | true =>
    obtain ⟨k, hk, hgk, -⟩ := ((callSoon g.loop (d.entry r)).evolves m).future future
    refine ⟨k, hk, hgk.loop, .inr (.inr ⟨hgk.done hg, ?_⟩)⟩
    rw [hgk.loop]
    exact callSoon_due g.loop (d.entry r) m
  | false =>
    refine ⟨_, m.valueOf_changeFuture future _, rfl, .inl ⟨hg, ?_⟩⟩
    exact List.mem_append_right _ List.mem_cons_self

theorem call_addCallback (mach : Machine) (hc : c = .future ∨ c = .task)
    (h : m.valueOf f = .nativeMethod c "add_done_callback" r) (future : m.valueOf r = .future g)
    (d : Ref) : ∃ k, ((callObject mach f [d] []).run m).2.valueOf r = .future k ∧
      k.loop = g.loop ∧ ((callObject mach f [d] []).run m).2.Keeps r k (.call d) := by
  have bound : isClassMethod c "add_done_callback" = false := by rcases hc with rfl | rfl <;> rfl
  have named : (namedMethod mach c "add_done_callback" r [d] []).run m =
      (addCallback r (.call d) >>= fun _ => pure (some Ref.none)).run m := by
    simp only [namedMethod]
    rw [run_valueOf_bind, future]
    rcases hc with rfl | rfl <;> rfl
  have keeps := addCallback_keeps future (.call d)
  rw [callObject_native h]
  rw [run_bind] at named
  revert named keeps
  generalize (addCallback r (.call d)).run m = b
  obtain ⟨e | _, n⟩ := b <;> intro named keeps
  · rw [callNative_failing mach bound named]
    exact keeps
  · rw [callNative_named mach bound named]
    exact keeps

/-! ## Reading the methods -/

/-- The methods that a driver asks its loop for. -/
theorem getAttr_loop (mach : Machine) (h : m.GenuineLoop r) {name : String}
    (hn : name = "stop" ∨ name = "call_soon_threadsafe") : (getAttr mach r name).run m =
      (make .nativeFunction (.nativeMethod .eventLoop name r)).run m := by
  obtain ⟨x, hx⟩ := h.loop
  have unclassed : m.class? r = none := Memory.class?_of_asyncio (by rw [hx]; rfl)
  have own : ((m.object r).attributes.getD []).lookup name = none := by
    rw [h.genuine.attributes]
    rfl
  rcases hn with rfl | rfl
  · exact getAttr_native mach h.genuine.cls unclassed own (by decide) (by decide) rfl rfl
  · exact getAttr_native mach h.genuine.cls unclassed own (by decide) (by decide) rfl rfl

/-- The methods that a future is asked for. -/
def futureQueries : List String :=
  ["done", "get_loop", "add_done_callback", "cancelled", "exception", "result"]

/-- A future knows all of them. A task has `get_loop` from the futures and the others itself. -/
theorem getAttr_future (mach : Machine) (h : m.GenuineFuture r g) {name : String}
    (hn : name ∈ futureQueries) :
    ∃ o : Builtin, (o = .future ∨ o = .task) ∧ (getAttr mach r name).run m =
      (make .nativeFunction (.nativeMethod o name r)).run m := by
  have unclassed : m.class? r = none := Memory.class?_of_asyncio (by rw [h.value]; rfl)
  have own {c : Builtin} (hc : m.Genuine r c) :
      ((m.object r).attributes.getD []).lookup name = none := by
    rw [hc.attributes]
    rfl
  simp only [futureQueries, List.mem_cons, List.not_mem_nil, or_false] at hn
  rcases h.genuine with hc | hc
  · refine ⟨.future, .inl rfl, ?_⟩
    rcases hn with rfl | rfl | rfl | rfl | rfl | rfl <;>
      exact getAttr_native mach hc.cls unclassed (own hc) (by decide) (by decide) rfl rfl
  · by_cases inherited : name = "get_loop"
    · subst inherited
      exact ⟨.future, .inl rfl,
        getAttr_native mach hc.cls unclassed (own hc) (by decide) (by decide) rfl rfl⟩
    · refine ⟨.task, .inr rfl, ?_⟩
      rcases hn with rfl | rfl | rfl | rfl | rfl | rfl
      · exact getAttr_native mach hc.cls unclassed (own hc) (by decide) (by decide) rfl rfl
      · exact absurd rfl inherited
      all_goals exact getAttr_native mach hc.cls unclassed (own hc) (by decide) (by decide) rfl rfl

/-- The methods that the bridge reads of what it has been given. -/
def bridgeQueries : List String := ["done", "add_done_callback", "call_soon_threadsafe"]

/-- An object that has one of these methods has been made. -/
theorem has_of_getAttr {mach : Machine} {name : String} (hn : name ∈ bridgeQueries) {n : Memory}
    {v : Ref} (h : (getAttr mach r name).run m = (.ok v, n)) : m.Has r := by
  refine Classical.byContradiction fun absent => ?_
  have object := Memory.object_of_not_has absent
  have unclassed : m.class? r = none := by
    cases r with
    | static s => exact absurd trivial absent
    | cell id =>
      refine Memory.class?_of_value fun info hc => ?_
      rw [Memory.valueOf, object] at hc
      cases hc
  have cls : m.classOf r = Ref.ofBuiltin Static.none.cls := congrArg Object.cls object
  have own : ((m.object r).attributes.getD []).lookup name = none := by
    rw [object]
    rfl
  have missing : ∃ e k, (getAttr mach r name).run m = (.error e, k) := by
    have value : m.valueOf r = Static.none.object.value := congrArg Object.value object
    simp only [bridgeQueries, List.mem_cons, List.not_mem_nil, or_false] at hn
    rcases hn with rfl | rfl | rfl <;>
      exact getAttr_absent mach cls unclassed own value (by decide) (by decide)
  obtain ⟨e, k, failed⟩ := missing
  rw [h] at failed
  cases failed

end Eval

end EmbeddedPython
