import EmbeddedPython.Proofs.Bridge.Idle
import Mathlib.Logic.Relation

/-
  What can happen to the bridge

  `Process.Change` lists every change that an activity can make to the loops,
  the promises, the environments and the journal, each with what is known when
  it is made. Whatever is done to a queue is a sequence of these changes, and so
  are the moves of the drivers. An invariant of the bridge has to be checked for
  the changes only.
-/

namespace EmbeddedPython

open Bridge

/-- The promise of the request that a driver has in hand. -/
def Bridge.Phase.promise? : Bridge.Phase → Option PromiseId
  | starting _ _ i => some i
  | registering _ _ x | accepting _ x => some x.promise
  | _ => none

namespace Process

/-- One change to a process. -/
inductive Change (p : Process) : Process → Prop where
  | idle {q : Process} (h : p.Idles q) : Change p q
  | python (l : LoopId) (f : Loop → Loop) : Change p (p.changePythonLoop l f)
  /-- a request that no caller waits for is queued -/
  | queue (l : LoopId) (r : Request) (isOpen : (p.loop l).notifier.isSome = true)
      (h : r.promise? = none) : Change p (p.queue l r)
  | drain (l : LoopId) (h : (p.loop l).driver.phase = .draining) : Change p (p.drain l)
  | clear (l : LoopId) (e : Error) : Change p (p.clear l e)
  /-- a queue is closed -/
  | shut (l : LoopId) (h : (p.loop l).driver.phase = .closing ∨ (p.loop l).driver.phase = .exited) :
      Change p (p.changeLoop l fun x => { x with notifier := none })
  | reject (l : LoopId) (i : PromiseId) (e : Error) (h : (p.loop l).driver.phase.promise? = some i) :
      Change p (p.reject l i e)
  | accept (l : LoopId) (x : Tracked) (h : (p.loop l).driver.phase.promise? = some x.promise) :
      Change p (p.accept l x)
  | finish (l : LoopId) (n : Nat) (o : Bridge.Outcome) : Change p (p.finish l n o)
  /-- a driver goes on to something else, with the same request in hand -/
  | move (l : LoopId) (phase : Bridge.Phase)
      (same : phase.promise? = (p.loop l).driver.phase.promise?)
      (before : (p.loop l).driver.phase ≠ .exited) (live : phase ≠ .exited)
      (idle : phase = .closing → (p.loop l).driver.tasks = []) :
      Change p (p.changeLoop l fun x => { x with driver := { x.driver with phase := phase } })
  | stopping (l : LoopId) :
      Change p (p.changeLoop l fun x => { x with driver := { x.driver with stopping := true } })
  /-- tasks change in what no caller sees -/
  | retask (l : LoopId) (f : Tracked → Tracked) (h : ∀ x, (f x).promise = x.promise) :
      Change p (p.changeLoop l fun x =>
        { x with driver := { x.driver with tasks := x.driver.tasks.map f } })
  /-- something changes that belongs to the owners of a loop -/
  | owners (l : LoopId) (f : Bridge.EventLoop → Bridge.EventLoop)
      (h : ∀ x, (f x).environment = x.environment ∧ (f x).requests = x.requests ∧
        (f x).notifier = x.notifier ∧ (f x).driver = x.driver) : Change p (p.changeLoop l f)
  | addLoop (x : Bridge.EventLoop) (isOpen : (p.environment x.environment).bindings.isSome = true)
      (requests : x.requests = []) (notifier : x.notifier.isSome = true)
      (tasks : x.driver.tasks = []) (phase : x.driver.phase = .entering) :
      Change p (p.addLoop x)
  | exit (l : LoopId) (phase : (p.loop l).driver.phase = .closing)
      (notifier : (p.loop l).notifier = none) (requests : (p.loop l).requests = []) :
      Change p (p.exit l)
  | abandon (i : PromiseId) : Change p (p.changePromise i fun x => { x with awaited := false })
  | defaultLoop (e : EnvironmentId) (l : LoopId) :
      Change p (p.changeEnvironment e fun x => { x with defaultLoop := some l })

/-- Any number of changes. -/
abbrev Turns : Process → Process → Prop := Relation.ReflTransGen Change

theorem Idles.turns {p q : Process} (h : p.Idles q) : p.Turns q := .single (.idle h)

/-- What every change keeps, any number of changes keep. -/
theorem Turns.keeps {I : Process → Prop} (hI : ∀ p q, Change p q → I p → I q) {p q : Process}
    (h : p.Turns q) (hp : I p) : I q := by
  induction h with
  | refl => exact hp
  | tail _ hq ih => exact hI _ _ hq ih

/-! ## Loops by number -/

theorem loop_of_size_le {p : Process} {l : LoopId} (h : p.loops.size ≤ l) : p.loop l = default := by
  simp [loop, Array.getD, Nat.not_lt.mpr h]

theorem lt_size_of_phase {p : Process} {l : LoopId} (h : (p.loop l).driver.phase ≠ .exited) :
    l < p.loops.size := by
  refine Nat.lt_of_not_le fun hn => h ?_
  rw [loop_of_size_le hn]
  rfl

theorem lt_size_of_notifier {p : Process} {l : LoopId} (h : (p.loop l).notifier.isSome = true) :
    l < p.loops.size := by
  refine Nat.lt_of_not_le fun hn => ?_
  rw [loop_of_size_le hn] at h
  exact Bool.noConfusion h

/-- An array with one element changed, by number. -/
theorem getD_modify {α : Type} (xs : Array α) (f : α → α) (d : α) (n k : Nat) :
    (xs.modify n f).getD k d = if k = n ∧ n < xs.size then f (xs.getD n d) else xs.getD k d := by
  by_cases hk : k < xs.size
  · by_cases hn : k = n
    · subst hn
      simp [Array.getD, hk, Array.getElem_modify]
    · simp [Array.getD, hk, Array.getElem_modify, hn, Ne.symm hn]
  · have hn : ¬ (k = n ∧ n < xs.size) := by
      rintro ⟨rfl, h⟩
      exact hk h
    simp [Array.getD, hk, hn]

theorem loop_changeLoop (p : Process) (l : LoopId) (f : Bridge.EventLoop → Bridge.EventLoop)
    (k : LoopId) : (p.changeLoop l f).loop k =
      if k = l ∧ l < p.loops.size then f (p.loop l) else p.loop k :=
  getD_modify p.loops f default l k

theorem loop_changeLoop_self {p : Process} {l : LoopId} (h : l < p.loops.size)
    (f : Bridge.EventLoop → Bridge.EventLoop) : (p.changeLoop l f).loop l = f (p.loop l) := by
  simp [loop_changeLoop, h]

theorem loop_changeLoop_of_ne {p : Process} {l k : LoopId} (h : k ≠ l)
    (f : Bridge.EventLoop → Bridge.EventLoop) : (p.changeLoop l f).loop k = p.loop k := by
  simp [loop_changeLoop, h]

theorem lt_size_of_tasks {p : Process} {l : LoopId} (h : (p.loop l).driver.tasks ≠ []) :
    l < p.loops.size := by
  refine Nat.lt_of_not_le fun hn => h ?_
  rw [loop_of_size_le hn]
  rfl

theorem lt_size_of_requests {p : Process} {l : LoopId} (h : (p.loop l).requests ≠ []) :
    l < p.loops.size := by
  refine Nat.lt_of_not_le fun hn => h ?_
  rw [loop_of_size_le hn]
  rfl

@[simp] theorem record_loop (p : Process) (e : Event) (l k : LoopId) (r : Request) :
    (p.record e l r).loop k = p.loop k := by
  simp only [record]
  split <;> rfl

@[simp] theorem settle_loop (p : Process) (i : PromiseId) (o : Bridge.Outcome) (k : LoopId) :
    (p.settle i o).loop k = p.loop k := rfl

@[simp] theorem answer_loop (p : Process) (r : Request) (e : Error) (k : LoopId) :
    (p.answer r e).loop k = p.loop k := by
  simp only [answer]
  split <;> rfl

/-- An array with one more element, by number. -/
theorem getD_push {α : Type} (xs : Array α) (x d : α) (k : Nat) :
    (xs.push x).getD k d = if k = xs.size then x else xs.getD k d := by
  by_cases hk : k = xs.size
  · simp [hk]
  · by_cases hlt : k < xs.size
    · simp [Array.getD, hlt, hk, Nat.lt_succ_of_lt hlt, Array.getElem_push_lt]
    · have hn : ¬ k < xs.size + 1 :=
        Nat.not_lt.mpr (Nat.lt_of_le_of_ne (Nat.not_lt.mp hlt) (Ne.symm hk))
      simp [Array.getD, hlt, hk, hn]

theorem loop_addLoop (p : Process) (x : Bridge.EventLoop) (k : LoopId) :
    (p.addLoop x).loop k = if k = p.loops.size then x else p.loop k :=
  getD_push p.loops x default k

theorem loop_drain {p : Process} {l : LoopId} {r : Request} {rest : List Request}
    (h : (p.loop l).requests = r :: rest) : (p.drain l).loop l =
      { p.loop l with
        requests := rest, driver := { (p.loop l).driver with phase := afterDraining r } } := by
  have hl : l < p.loops.size := lt_size_of_requests (by simp [h])
  simp [drain, h, loop_changeLoop_self hl]

theorem loop_clear {p : Process} {l : LoopId} {r : Request} {rest : List Request}
    (h : (p.loop l).requests = r :: rest) (e : Error) :
    (p.clear l e).loop l = { p.loop l with requests := rest } := by
  have hl : l < p.loops.size := lt_size_of_requests (by simp [h])
  simp [clear, h, loop_changeLoop_self hl]

theorem loop_finish {p : Process} {l : LoopId} {n : Nat} (h : n < (p.loop l).driver.tasks.length)
    (o : Bridge.Outcome) : (p.finish l n o).loop l =
      { p.loop l with driver :=
        { (p.loop l).driver with tasks := (p.loop l).driver.tasks.eraseIdx n } } := by
  have hl : l < p.loops.size := by
    refine lt_size_of_tasks fun hn => ?_
    rw [hn] at h
    exact absurd h (Nat.not_lt_zero n)
  simp only [finish, List.getElem?_eq_getElem h, settle_loop]
  exact loop_changeLoop_self hl _

@[simp] theorem changePythonLoop_loops (p : Process) (l : LoopId) (f : Loop → Loop) :
    (p.changePythonLoop l f).loops = p.loops := by
  simp only [changePythonLoop]
  split <;> rfl

@[simp] theorem changePythonLoop_loop (p : Process) (l k : LoopId) (f : Loop → Loop) :
    (p.changePythonLoop l f).loop k = p.loop k := by
  simp [loop]

end Process

namespace Activity

variable {α β : Type}

/-- Whether an activity is a sequence of changes. -/
def Turning (x : Activity α) : Prop := ∀ p : Process, p.Turns (x p).2

theorem Idle.turning {x : Activity α} (h : Idle x) : Turning x := fun p => (h p).turns

namespace Turning

theorem pure (a : α) : Turning (Pure.pure a) := fun _ => .refl

theorem bind {x : Activity α} {f : α → Activity β} (hx : Turning x) (hf : ∀ a, Turning (f a)) :
    Turning (x >>= f) :=
  fun p => (hx p).trans (hf _ _)

theorem get_bind {f : Process → Activity β} (hf : ∀ p, Turning (f p)) : Turning (get >>= f) :=
  fun p => hf p p

theorem modify {f : Process → Process} (hf : ∀ p, Process.Change p (f p)) :
    Turning (modify f) :=
  fun p => .single (hf p)

theorem forM {xs : List α} {f : α → Activity Unit} (hf : ∀ a, Turning (f a)) :
    Turning (xs.forM f) := by
  induction xs with
  | nil => exact pure ()
  | cons x xs ih => exact bind (hf x) fun _ => ih

end Turning

end Activity

namespace Bridge

open Activity Process

/-! ## Requests -/

/-- A push either does nothing at all or puts the request into an open queue. -/
theorem push_cases (t : ThreadId) (l : LoopId) (r : Request) (p : Process) :
    push t l r p = (.refused, p) ∧ ((p.loop l).notifier = none ∨ canLock p t = false) ∨
    ∃ w q q', push t l r p = (.queued w, q') ∧ (p.loop l).notifier.isSome = true ∧
      p.Idles q ∧ (q.queue l r).Idles q' := by
  cases hn : (p.loop l).notifier with
  | none => exact .inl ⟨by simp [push, hn], .inl rfl⟩
  | some n =>
    cases hc : canLock p t with
    | false => exact .inl ⟨by simp [push, hn, hc], .inr rfl⟩
    | true =>
      refine .inr ?_
      simp only [push, run_get_bind, hn, hc]
      rw [run_bind]
      generalize hb : ask t (do
        let callSoon ← n.callSoon.clone
        pure (Notifier.mk callSoon (← n.stop.clone))) p = b
      have hq : p.Idles b.2 := hb ▸ ask_idle t _ p
      obtain ⟨w | w, q⟩ := b
      · exact ⟨none, q, _, rfl, rfl, hq, note_idle _ _⟩
      · exact ⟨some w, q, _, rfl, rfl, hq, .refl _⟩

theorem push_turning (t : ThreadId) (l : LoopId) {r : Request} (h : r.promise? = none) :
    Turning (push t l r) := by
  intro p
  rcases push_cases t l r p with ⟨hp, -⟩ | ⟨w, q, q', hp, hn, hq, hq'⟩
  · rw [hp]
  · rw [hp]
    refine hq.turns.trans (.head (.queue l r ?_ h) hq'.turns)
    rw [hq.loop]
    exact hn

theorem enqueue_turning (t : ThreadId) (l : LoopId) {r : Request} (h : r.promise? = none) :
    Turning (enqueue t l r) := by
  refine .bind (push_turning t l h) fun w => ?_
  rcases w with _ | _ | n
  · exact .pure false
  · exact .pure true
  · exact .bind (wake_idle t n).turning fun _ => .pure true

theorem requestCancel_turning (t : ThreadId) (c : CancelCall) : Turning (requestCancel t c) :=
  .bind (enqueue_turning t c.loop rfl) fun _ => .pure ()

theorem registerCancel_turning (t : ThreadId) (token : Cancellation.Token) (c : CancelCall) :
    Turning (registerCancel t token c) := by
  simp only [registerCancel]
  cases token.signal with
  | none => exact .pure _
  | some i =>
    intro p
    simp only [run_get_bind, run_set_bind]
    obtain ⟨id?, signal⟩ := (p.signals.getD i Cancellation.Signal.fresh).register c []
    have hq : p.Idles { p with signals := p.signals.setIfInBounds i signal } :=
      ⟨.refl _, rfl, rfl, rfl, rfl, rfl⟩
    refine hq.turns.trans ?_
    cases id? with
    | some id => exact .refl
    | none => exact (Turning.bind (requestCancel_turning t c) fun _ => .pure _) _

/-! A push leaves the drivers alone. -/

theorem queue_driver (p : Process) (l k : LoopId) (r : Request) :
    ((p.queue l r).loop k).driver = (p.loop k).driver := by
  simp only [queue, record_loop, loop_changeLoop]
  split
  · next h => rw [h.1]
  · rfl

theorem push_driver (t : ThreadId) (l k : LoopId) (r : Request) (p : Process) :
    ((push t l r p).2.loop k).driver = (p.loop k).driver := by
  rcases push_cases t l r p with ⟨hp, -⟩ | ⟨w, q, q', hp, -, hq, hq'⟩
  · rw [hp]
  · rw [hp, hq'.loop, queue_driver, hq.loop]

theorem enqueue_driver (t : ThreadId) (l k : LoopId) (r : Request) (p : Process) :
    ((enqueue t l r p).2.loop k).driver = (p.loop k).driver := by
  have hp := push_driver t l k r p
  simp only [enqueue, run_bind]
  revert hp
  generalize push t l r p = b
  rcases b with ⟨_ | _ | n, q⟩ <;> intro hp
  · exact hp
  · exact hp
  · exact (congrArg _ ((wake_idle t n q).loop k)).trans hp

theorem registerCancel_driver (t : ThreadId) (token : Cancellation.Token) (c : CancelCall)
    (k : LoopId) (p : Process) :
    ((registerCancel t token c p).2.loop k).driver = (p.loop k).driver := by
  simp only [registerCancel]
  cases token.signal with
  | none => rfl
  | some i =>
    simp only [run_get_bind, run_set_bind]
    obtain ⟨id?, signal⟩ := (p.signals.getD i Cancellation.Signal.fresh).register c []
    cases id? with
    | some id => rfl
    | none => exact enqueue_driver t c.loop k (.cancel c.task) _

/-! ## Closing a queue -/

/-- Clearing takes one request out of a queue. -/
theorem clearNext_turns (t : ThreadId) (l : LoopId) (e : Error) (p : Process) :
    p.Turns (clearNext t l e p).2 ∧ ((clearNext t l e p).2.loop l) =
      { p.loop l with requests := (p.loop l).requests.tail } := by
  cases hr : (p.loop l).requests with
  | nil =>
    have hp : (clearNext t l e p).2 = p := by simp [clearNext, hr]
    rw [hp]
    refine ⟨.refl, ?_⟩
    rw [List.tail_nil, ← hr]
  | cons r rest =>
    have hq := tell_idle t r.drop (p.clear l e)
    have hp : (clearNext t l e p).2 = (tell t r.drop (p.clear l e)).2 := by simp [clearNext, hr]
    rw [hp]
    refine ⟨.head (.clear l e) hq.turns, ?_⟩
    rw [hq.loop, loop_clear hr]
    rfl

theorem clearAll_turns (t : ThreadId) (l : LoopId) (e : Error) (rs : List Request) (p : Process) :
    p.Turns (rs.forM (fun _ => clearNext t l e) p).2 ∧
      (rs.forM (fun _ => clearNext t l e) p).2.loop l =
        { p.loop l with requests := (p.loop l).requests.drop rs.length } := by
  induction rs generalizing p with
  | nil => exact ⟨.refl, rfl⟩
  | cons r rs ih =>
    obtain ⟨hq, hl⟩ := clearNext_turns t l e p
    obtain ⟨hr, hl'⟩ := ih (clearNext t l e p).2
    refine ⟨hq.trans hr, ?_⟩
    refine hl'.trans ?_
    rw [hl]
    simp

/-- A queue that has been closed is empty. -/
theorem close_turns (t : ThreadId) (l : LoopId) (e : Error) {p : Process}
    (h : (p.loop l).driver.phase = .closing ∨ (p.loop l).driver.phase = .exited) :
    p.Turns (close t l e p).2 ∧
      (close t l e p).2.loop l = { p.loop l with notifier := none, requests := [] } := by
  let q := p.changeLoop l fun x => { x with notifier := none }
  have hq : p.Turns q := .single (.shut l h)
  have hl : q.loop l = { p.loop l with notifier := none } := by
    by_cases hs : l < p.loops.size
    · exact loop_changeLoop_self hs _
    · simp [q, loop_changeLoop, hs, loop_of_size_le (Nat.not_lt.mp hs)]
      rfl
  obtain ⟨q', hq', he⟩ : ∃ q' : Process, q.Idles q' ∧ (close t l e p).2 =
      ((p.loop l).requests.forM (fun _ => clearNext t l e) q').2 := by
    cases hn : (p.loop l).notifier with
    | none => exact ⟨q, .refl q, by simp [close, hn, q, modifyLoop]⟩
    | some n =>
      refine ⟨_, (tell_idle t n.callSoon.drop q).trans (tell_idle t n.stop.drop _), ?_⟩
      simp only [close, run_get_bind, hn]
      rfl
  have hl' : q'.loop l = { p.loop l with notifier := none } := by rw [hq'.loop, hl]
  obtain ⟨hr, hc⟩ := clearAll_turns t l e (p.loop l).requests q'
  rw [he]
  refine ⟨(hq.trans hq'.turns).trans hr, ?_⟩
  rw [hc, hl']
  simp

end Bridge

end EmbeddedPython
