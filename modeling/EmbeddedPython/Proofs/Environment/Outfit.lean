import EmbeddedPython.Proofs.Environment.Equipment
import EmbeddedPython.Proofs.Environment.Telling

/-
  The outfit of a driver

  A driver keeps the objects that it was given until it leaves, and each of its
  tasks has the callback. That stays so whatever the threads of the host do: no
  driver gets other objects, no notifier is replaced, and environments resolve
  what they need only once, when they are started.
-/

namespace EmbeddedPython

open Activity Bridge

namespace Process

/-! ## What nothing replaces -/

/-- Every driver keeps its objects and every queue its notifier, unless it is closed; and nothing is
resolved. -/
structure SameOutfit (p q : Process) : Prop where
  size : p.loops.size ≤ q.loops.size
  bindings : ∀ l < p.loops.size, (q.loop l).driver.bindings = (p.loop l).driver.bindings
  notifier : ∀ l < p.loops.size,
    (q.loop l).notifier = (p.loop l).notifier ∨ (q.loop l).notifier = none
  resolved : ∀ e b, (q.environment e).bindings = some b → (p.environment e).bindings = some b

namespace SameOutfit

variable {p q r : Process}

theorem refl (p : Process) : p.SameOutfit p :=
  ⟨Nat.le_refl _, fun _ _ => rfl, fun _ _ => .inl rfl, fun _ _ => id⟩

theorem trans (pq : p.SameOutfit q) (qr : q.SameOutfit r) : p.SameOutfit r where
  size := Nat.le_trans pq.size qr.size
  bindings l hl := (qr.bindings l (Nat.lt_of_lt_of_le hl pq.size)).trans (pq.bindings l hl)
  notifier l hl := by
    rcases qr.notifier l (Nat.lt_of_lt_of_le hl pq.size) with h | h
    · rw [h]
      exact pq.notifier l hl
    · exact .inr h
  resolved e b h := pq.resolved e b (qr.resolved e b h)

theorem of_eq (loops : q.loops = p.loops) (environments : q.environments = p.environments) :
    p.SameOutfit q := by
  have loop (l : LoopId) : q.loop l = p.loop l := by simp only [Process.loop, loops]
  refine ⟨by rw [loops], fun l _ => by rw [loop], fun l _ => .inl (by rw [loop]), fun e b h => ?_⟩
  simpa only [Process.environment, environments] using h

theorem of_idles (h : p.Idles q) : p.SameOutfit q := of_eq h.loops h.environments

/-- A loop changes in something else. -/
theorem changeLoop (p : Process) (l : LoopId) {f : Bridge.EventLoop → Bridge.EventLoop}
    (h : ∀ x, (f x).driver.bindings = x.driver.bindings ∧
      ((f x).notifier = x.notifier ∨ (f x).notifier = none)) : p.SameOutfit (p.changeLoop l f) := by
  refine ⟨by simp [Process.changeLoop], fun k _ => ?_, fun k _ => ?_, fun _ _ => id⟩ <;>
    rw [loop_changeLoop] <;> split
  · next hk => rw [(h _).1, hk.1]
  · rfl
  · next hk => exact hk.1 ▸ (h _).2
  · exact .inl rfl

/-- An environment changes, and resolves nothing. -/
theorem changeEnvironment (p : Process) (e : EnvironmentId) {f : Environment → Environment}
    (h : ∀ x b, (f x).bindings = some b → x.bindings = some b) :
    p.SameOutfit (p.changeEnvironment e f) := by
  refine ⟨Nat.le_refl _, fun _ _ => rfl, fun _ _ => .inl rfl, fun k b hb => ?_⟩
  rw [environment_changeEnvironment] at hb
  split at hb
  · next hk => exact hk.1 ▸ h _ b hb
  · exact hb

theorem log (p : Process) (e : Event) (l : LoopId) (i : PromiseId) : p.SameOutfit (p.log e l i) :=
  of_eq rfl rfl

theorem changePromise (p : Process) (i : PromiseId) (f : Bridge.Promise → Bridge.Promise) :
    p.SameOutfit (p.changePromise i f) := of_eq rfl rfl

theorem record (p : Process) (e : Event) (l : LoopId) (r : Request) :
    p.SameOutfit (p.record e l r) := by
  simp only [Process.record]
  split
  · exact log p e l _
  · exact refl p

theorem answer (p : Process) (r : Request) (e : Error) : p.SameOutfit (p.answer r e) := by
  simp only [Process.answer]
  split
  · exact changePromise p _ _
  · exact refl p

theorem queue (p : Process) (l : LoopId) (r : Request) : p.SameOutfit (p.queue l r) := by
  refine SameOutfit.trans ?_ (record _ .queued l r)
  exact changeLoop p l fun _ => ⟨rfl, .inl rfl⟩

theorem clear (p : Process) (l : LoopId) (e : Error) : p.SameOutfit (p.clear l e) := by
  simp only [Process.clear]
  split
  · exact refl p
  · next r rest _ =>
    refine SameOutfit.trans ?_ (answer _ r e)
    refine SameOutfit.trans (SameOutfit.trans ?_ (record _ .cleared l r)) (record _ .rejected l r)
    exact changeLoop p l fun _ => ⟨rfl, .inl rfl⟩

theorem addLoop (p : Process) (x : Bridge.EventLoop) : p.SameOutfit (p.addLoop x) := by
  refine trans (q := { p with loops := p.loops.push x }) ?_ (changeEnvironment _ _ fun _ _ => id)
  have old {l : LoopId} (hl : l < p.loops.size) :
      ({ p with loops := p.loops.push x } : Process).loop l = p.loop l := by
    rw [Process.loop, getD_push, if_neg (Nat.ne_of_lt hl)]
    rfl
  refine ⟨by simp, fun l hl => by rw [old hl], fun l hl => .inl (by rw [old hl]), fun _ _ => id⟩

theorem of_change (h : p.Change q) : p.SameOutfit q := by
  cases h with
  | idle h => exact of_idles h
  | python l f =>
    refine of_eq (p.changePythonLoop_loops l f) ?_
    simp only [Process.changePythonLoop]
    split <;> rfl
  | queue l r => exact queue p l r
  | drain l =>
    simp only [Process.drain]
    split
    · exact refl p
    · next r rest _ =>
      refine SameOutfit.trans ?_ (record _ .drained l r)
      exact changeLoop p l fun _ => ⟨rfl, .inl rfl⟩
  | clear l e => exact clear p l e
  | shut l => exact changeLoop p l fun _ => ⟨rfl, .inr rfl⟩
  | reject l i e =>
    refine SameOutfit.trans (SameOutfit.trans ?_ (log _ .rejected l i)) (changePromise _ i _)
    exact changeLoop p l fun _ => ⟨rfl, .inl rfl⟩
  | accept l x =>
    refine SameOutfit.trans (SameOutfit.trans ?_ (log _ .accepted l x.promise)) (changePromise _ _ _)
    exact changeLoop p l fun _ => ⟨rfl, .inl rfl⟩
  | finish l n o =>
    simp only [Process.finish]
    split
    · exact refl p
    · next x _ =>
      refine SameOutfit.trans (SameOutfit.trans ?_ (log _ .finished l x.promise)) (changePromise _ _ _)
      exact changeLoop p l fun _ => ⟨rfl, .inl rfl⟩
  | move l phase => exact changeLoop p l fun _ => ⟨rfl, .inl rfl⟩
  | stopping l => exact changeLoop p l fun _ => ⟨rfl, .inl rfl⟩
  | retask l f => exact changeLoop p l fun _ => ⟨rfl, .inl rfl⟩
  | owners l f h =>
    refine changeLoop p l fun x => ?_
    obtain ⟨-, -, notifier, driver⟩ := h x
    exact ⟨by rw [driver], .inl notifier⟩
  | addLoop x => exact addLoop p x
  | exit l =>
    refine SameOutfit.trans ?_ (changeEnvironment _ (p.loop l).environment fun _ _ => id)
    exact changeLoop p l fun _ => ⟨rfl, .inl rfl⟩
  | abandon i => exact of_eq rfl rfl
  | defaultLoop e l => exact changeEnvironment p e fun _ _ => id

theorem of_turns (h : p.Turns q) : p.SameOutfit q := by
  induction h with
  | refl => exact refl p
  | tail _ h ih => exact ih.trans (of_change h)

end SameOutfit

end Process

namespace Activity

variable {α β : Type}

/-- Whether an activity replaces no outfit. -/
def Leaves (x : Activity α) : Prop := ∀ p : Process, p.SameOutfit (x p).2

theorem Turning.leaves {x : Activity α} (h : Turning x) : Leaves x := fun p => .of_turns (h p)

theorem Idle.leaves {x : Activity α} (h : Idle x) : Leaves x := fun p => .of_idles (h p)

namespace Leaves

theorem pure (a : α) : Leaves (Pure.pure a) := fun p => .refl p

theorem bind {x : Activity α} {f : α → Activity β} (hx : Leaves x) (hf : ∀ a, Leaves (f a)) :
    Leaves (x >>= f) :=
  fun p => (hx p).trans (hf _ _)

theorem get_bind {f : Process → Activity β} (hf : ∀ p, Leaves (f p)) : Leaves (get >>= f) :=
  fun p => hf p p

end Leaves

theorem closing_leaves (t : ThreadId) (e : EnvironmentId) : Leaves (closing t e) := by
  have marked : Leaves (markClosed e) := by
    refine .get_bind fun p => ?_
    dsimp only
    split
    · exact .pure none
    · exact .bind (fun q => .changeEnvironment q e fun _ _ => id) fun _ => .pure _
  refine .bind marked fun found => ?_
  rcases found with _ | _ | l
  · exact .pure _
  · exact .pure _
  · refine .bind (markDisposed_turning l).leaves fun disposed => ?_
    cases disposed <;> exact .pure _

theorem settleClose_leaves (t : ThreadId) (e : EnvironmentId) (loop : Option LoopId)
    (waited : Bool) : Leaves (settleClose t e loop waited) := by
  have dropped : Leaves (dropBindings t e) := by
    refine .get_bind fun p => ?_
    split
    · exact .pure ()
    · exact .bind (fun q => .changeEnvironment q e fun _ _ => nofun) fun _ => (tell_idle t _).leaves
  refine .bind (endDefault_turning t loop waited).leaves fun disposed => ?_
  refine .bind (releaseDefault_turning t loop).leaves fun _ => .bind dropped fun _ => ?_
  refine .get_bind fun p => .bind (fun q => .changeEnvironment q e fun _ _ => id) fun _ => ?_
  exact (decideClose_idle _ disposed).leaves

theorem finishClose_leaves (t : ThreadId) (finalizes : Bool) : Leaves (finishClose t finalizes) := by
  intro p
  cases finalizes with
  | false => exact .of_eq rfl rfl
  | true =>
    refine .of_eq (finalize_same p t).1 ?_
    show (p.finalize t).environments = p.environments
    simp only [Process.finalize]
    split <;> rfl

theorem push_leaves (t : ThreadId) (l : LoopId) (r : Request) : Leaves (push t l r) := by
  intro p
  rcases push_cases t l r p with ⟨h, -⟩ | ⟨w, q, q', h, -, hq, hq'⟩ <;> rw [h]
  · exact .refl p
  · exact (Process.SameOutfit.of_idles hq).trans ((Process.SameOutfit.queue q l r).trans (.of_idles hq'))

theorem discard_leaves (t : ThreadId) (r : Request) (e : Error) : Leaves (discard t r e) :=
  .bind (fun p => .answer p r e) fun _ => (tell_idle t r.drop).leaves

theorem prepare_leaves (t : ThreadId) (l : LoopId) (awaitable : Handle)
    (token : Cancellation.Token) : Leaves (prepare t l awaitable token) := by
  intro p
  rcases prepare_cases t l awaitable token p with ⟨e, q, h, hq⟩ | ⟨c, q, hq, h⟩ <;> rw [h]
  · exact .of_idles hq
  · exact (Process.SameOutfit.of_idles hq).trans (.of_eq rfl rfl)

/-- Resolving what an environment needs fails, or ends with a callback that stops loops. -/
theorem resolve_cases (t : ThreadId) (e : EnvironmentId) (p : Process) :
    (∃ error q, resolve t e p = (.error error, q) ∧ p.Idles q) ∨
    ∃ b q, p.Idles q ∧ q.host.memory.IsStopOnDone b.stopOnDone.ref ∧ resolve t e p =
      (.ok (), q.changeEnvironment e fun x => { x with bindings := some b }) := by
  simp only [resolve]
  rw [run_get_bind, run_bind]
  have idle := ask_idle t (resolveBindings (p.environment e).options) p
  generalize hb : ask t (resolveBindings (p.environment e).options) p = r at idle
  obtain ⟨error | b, q⟩ := r
  · exact .inl ⟨error, q, rfl, idle⟩
  · exact .inr ⟨b, q, idle, resolveBindings_ok (ask_ok hb), rfl⟩

end Activity

theorem Chore.leaves (t : ThreadId) {c : Chore} (h : ∀ e, c ≠ .resolve e) : Leaves (c.run t) := by
  cases c with
  | enqueue l r =>
    refine .bind (push_leaves t l r) fun pushed => ?_
    rcases pushed with _ | _ | n
    · exact .bind (discard_leaves t r _) fun _ => .pure _
    · exact .pure _
    · exact .pure _
  | wake n => exact (Chore.routine t (c := .wake n) trivial).1.leaves
  | endDispose l dropped => exact (Chore.routine t (c := .endDispose l dropped) trivial).1.leaves
  | resolve e => exact absurd rfl (h e)
  | settleClose e loop waited => exact .bind (settleClose_leaves t e loop waited) fun _ => .pure _
  | finishClose finalizes => exact .bind (finishClose_leaves t finalizes) fun _ => .pure _

namespace System

/-- Whatever happens, nothing of an outfit is replaced, and what an environment resolves has a
callback that stops loops. -/
theorem step_outfit (s : System) (a : Action) : ∃ q, s.process.SameOutfit q ∧
    (s.step a).process.loops = q.loops ∧
    ∀ e b, ((s.step a).process.environment e).bindings = some b →
      (q.environment e).bindings = some b ∨
        (s.step a).process.host.memory.IsStopOnDone b.stopOnDone.ref := by
  have same (h : s.process.SameOutfit (s.step a).process) : ∃ q, s.process.SameOutfit q ∧
      (s.step a).process.loops = q.loops ∧
      ∀ e b, ((s.step a).process.environment e).bindings = some b →
        (q.environment e).bindings = some b ∨
          (s.step a).process.host.memory.IsStopOnDone b.stopOnDone.ref :=
    ⟨_, h, rfl, fun _ _ => .inl⟩
  by_cases routine : a.IsRoutine
  · refine same ?_
    rw [step_of_routine s routine]
    exact (Action.routine routine).1.leaves s.process
  cases a with
  | submit t l awaitable token =>
    refine same ((Leaves.bind (prepare_leaves t l awaitable token) fun r => ?_) s.process)
    cases r <;> exact .pure _
  | start t o =>
    refine same ?_
    rcases start_process s t o with h | h <;> rw [h]
    · exact .refl _
    · refine ⟨?_, fun l _ => by rw [Process.enroll_loop], fun l _ => .inl (by rw [Process.enroll_loop]),
        fun e b hb => ?_⟩
      · cases ha : s.process.host.lock.alive <;> simp [Process.enroll, Process.beginInterpreter, ha]
      · rw [Process.enroll_environment] at hb
        split at hb
        · cases hb
        · exact hb
  | close t e =>
    refine same ((Leaves.get_bind fun p => ?_) s.process)
    split
    · exact closing_leaves t e
    · exact .pure _
  | proceed n =>
    cases hn : s.chores[n]? with
    | none =>
      refine same ?_
      simp only [System.step, hn]
      exact .refl _
    | some tc =>
      obtain ⟨t, c⟩ := tc
      have hs : (s.step (.proceed n)).process = (c.run t s.process).2 := by
        simp only [System.step, hn]
        rfl
      by_cases resolves : ∃ e, c = .resolve e
      · obtain ⟨e, rfl⟩ := resolves
        rcases resolve_cases t e s.process with ⟨error, q, h, idle⟩ | ⟨b, q, idle, stops, h⟩
        · refine same ?_
          rw [hs, Chore.run, run_bind, h]
          exact (Process.SameOutfit.of_idles idle).trans (closing_leaves t e q)
        · have hp : (s.step (.proceed n)).process =
              q.changeEnvironment e fun x => { x with bindings := some b } := by
            rw [hs, Chore.run, run_bind, h]
            rfl
          refine ⟨q, .of_idles idle, by rw [hp]; rfl, fun k b' hb => ?_⟩
          rw [hp] at hb ⊢
          rw [Process.environment_changeEnvironment] at hb
          split at hb
          · cases hb
            exact .inr stops
          · exact .inl hb
      · refine same ?_
        rw [hs]
        exact Chore.leaves t (fun e he => resolves ⟨e, he⟩) s.process
  | _ => exact absurd trivial routine

end System

/-! ## What a driver has -/

namespace Process

/-- The callback that a driver adds to its tasks, by reference. -/
def callbackOf (p : Process) (l : LoopId) : Ref := (p.loop l).driver.bindings.stopOnDone.ref

/-- Whether a driver has what it needs to be told: its loop has been made, its callback stops loops,
its notifier wakes it if asyncio has made the loop, and each of its tasks has the callback. -/
structure Equips (p : Process) (l : LoopId) : Prop where
  made : p.host.memory.Has (p.loopOf l)
  callback : p.host.memory.IsStopOnDone (p.callbackOf l)
  notifier : ∀ n, (p.loop l).notifier = some n → p.host.memory.GenuineLoop (p.loopOf l) →
    n.Wakes p.host.memory (p.loopOf l)
  watched : ∀ x ∈ (p.loop l).desk.live,
    p.host.memory.Watched (p.loopOf l) (p.callbackOf l) x.task.ref x.done.ref

theorem Equips.evolves {p q : Process} {l : LoopId} (h : p.Equips l) (loop : q.loop l = p.loop l)
    (memory : p.host.memory.Evolves q.host.memory) : q.Equips l := by
  have loopOf : q.loopOf l = p.loopOf l := by rw [Process.loopOf, loop]; rfl
  have callbackOf : q.callbackOf l = p.callbackOf l := by rw [Process.callbackOf, loop]; rfl
  have retains := Memory.Retains.of_evolves memory
  constructor
  · rw [loopOf]
    exact retains.has h.made
  · rw [callbackOf]
    exact retains.stopOnDone h.callback
  · rw [loop, loopOf]
    exact fun n hn hl => (h.notifier n hn (retains.genuineLoop h.made hl)).retains retains
  · rw [loop, loopOf, callbackOf]
    exact fun x hx => (h.watched x hx).evolves (.of_evolves memory) h.made

end Process

namespace Activity

/-- Whoever opens a loop gives its driver what it needs. -/
theorem openLoop_equips (t : ThreadId) {e : EnvironmentId} {p : Process}
    (resolved : ∀ b, (p.environment e).bindings = some b →
      p.host.memory.IsStopOnDone b.stopOnDone.ref)
    (live : (openLoop t e p).2.Live p.loops.size) : (openLoop t e p).2.Equips p.loops.size := by
  have vacant {q : Process} (loops : q.loops = p.loops) : ¬ q.Live p.loops.size := by
    intro live
    have := Process.lt_size_of_phase live
    rw [loops] at this
    exact Nat.lt_irrefl _ this
  cases hb : (p.environment e).bindings with
  | none =>
    simp only [openLoop, run_get_bind, hb] at live
    exact absurd live (vacant rfl)
  | some b =>
    simp only [openLoop, run_get_bind, hb] at live ⊢
    rw [run_bind] at live ⊢
    have idle := ask_idle t (loopObjects b) p
    generalize ha : ask t (loopObjects b) p = r at idle live ⊢
    obtain ⟨error | ⟨object, notifier, bindings⟩, q⟩ := r
    · exact absurd live (vacant idle.loops)
    · obtain ⟨made, callback, wakes⟩ := loopObjects_ok (ask_ok ha)
      have stops := (Memory.Retains.of_evolves idle.host.memory).stopOnDone (resolved b hb)
      dsimp only at live ⊢
      simp only [run_get_bind, run_modify_bind] at live ⊢
      generalize hx : Bridge.EventLoop.mk e object [] (some notifier)
        (p.environment e).options.shutdownTimeout false 1 ⟨bindings, [], false, .entering⟩ = x
      have new : (q.addLoop x).loop p.loops.size = x := by
        rw [Process.loop_addLoop, if_pos (congrArg Array.size idle.loops).symm]
      have equips : (q.addLoop x).Equips p.loops.size := by
        subst hx
        constructor <;> simp only [Process.loopOf, Process.callbackOf, new]
        · exact made
        · rw [callback]
          exact stops
        · intro n hn hl
          cases hn
          exact wakes hl
        · intro y hy
          cases hy
      have told := tell_idle (Process.driverThread q.loops.size) Op.acquire (q.addLoop x)
      exact equips.evolves (told.loop _) told.host.memory

theorem defaultLoop_equips (t : ThreadId) {e : EnvironmentId} {p : Process}
    (resolved : ∀ b, (p.environment e).bindings = some b →
      p.host.memory.IsStopOnDone b.stopOnDone.ref)
    (live : (defaultLoop t e p).2.Live p.loops.size) :
    (defaultLoop t e p).2.Equips p.loops.size := by
  have opened := openLoop_equips t resolved
  cases hd : (p.environment e).defaultLoop with
  | some l =>
    simp only [defaultLoop, run_get_bind, hd, run_pure] at live
    exact absurd (Process.lt_size_of_phase live) (Nat.lt_irrefl _)
  | none =>
    simp only [defaultLoop, run_get_bind, hd] at live ⊢
    rw [run_bind] at live ⊢
    generalize openLoop t e p = r at opened live ⊢
    obtain ⟨error | l, q⟩ := r
    · exact opened live
    · exact (opened live).evolves rfl (.refl _)

end Activity

namespace System

variable {s : System} {l : LoopId}

/-- Whether every driver has what it needs, and every environment what it gives to a driver. -/
structure Equipped (s : System) : Prop where
  resolved : ∀ e b, (s.process.environment e).bindings = some b →
    s.process.host.memory.IsStopOnDone b.stopOnDone.ref
  drivers : ∀ l, s.process.Live l → s.process.Equips l

/-- A driver keeps its objects. -/
theorem loop_step (s : System) (a : Action) (hl : l < s.process.loops.size) :
    (s.step a).process.loopOf l = s.process.loopOf l ∧
    (s.step a).process.callbackOf l = s.process.callbackOf l ∧
    ((((s.step a).process.loop l).notifier = (s.process.loop l).notifier) ∨
      ((s.step a).process.loop l).notifier = none) := by
  obtain ⟨q, outfit, loops, -⟩ := s.step_outfit a
  have loop : (s.step a).process.loop l = q.loop l := by simp only [Process.loop, loops]
  rw [Process.loopOf, Process.callbackOf, loop, outfit.bindings l hl]
  exact ⟨rfl, rfl, outfit.notifier l hl⟩

/-- A driver that has not been there is one that has been started with a new loop. -/
theorem starts_anew (sound : s.Sound) (a : Action) (before : ¬ s.process.Live l)
    (after : (s.step a).process.Live l) : a.Opens ∧ l = s.process.loops.size := by
  have exited : (s.process.loop l).driver.phase = .exited := Decidable.not_not.mp before
  by_cases moves : a = .drive l
  · subst moves
    refine absurd ?_ after
    rw [step_drive]
    simp only [Bridge.step, run_get_bind, exited]
    exact exited
  · rcases (act sound a).elsewhere moves with ⟨same, -⟩ | ⟨-, opens⟩
    · exact absurd (same.trans exited) after
    · exact opens

theorem Equipped.opens (h : s.Equipped) {a : Action} (opens : a.Opens)
    (live : (s.step a).process.Live s.process.loops.size) :
    (s.step a).process.Equips s.process.loops.size := by
  cases a with
  | openLoop t e => exact openLoop_equips t (h.resolved e) live
  | openDefault t e => exact defaultLoop_equips t (h.resolved e) live
  | _ => exact opens.elim

/-- Whatever happens, every driver has what it needs. -/
theorem Equipped.step (sound : s.Sound) (h : s.Equipped) (a : Action) : (s.step a).Equipped := by
  have retains := step_retains s a
  refine ⟨fun e b hb => ?_, fun l after => ?_⟩
  · obtain ⟨q, outfit, -, resolved⟩ := s.step_outfit a
    rcases resolved e b hb with hb | stops
    · exact retains.stopOnDone (h.resolved e b (outfit.resolved e b hb))
    · exact stops
  · by_cases before : s.process.Live l
    · have equips := h.drivers l before
      obtain ⟨loop, callback, notifier⟩ := s.loop_step a (Process.lt_size_of_phase before)
      constructor
      · rw [loop]
        exact retains.has equips.made
      · rw [callback]
        exact retains.stopOnDone equips.callback
      · rw [loop]
        intro n hn hl
        rcases notifier with same | none
        · exact (equips.notifier n (same ▸ hn) (retains.genuineLoop equips.made hl)).retains retains
        · cases none.symm.trans hn
      · rw [loop, callback]
        intro x hx
        rcases live_step sound a hx with ⟨y, hy, task, done, -⟩ | ⟨c, token, -, -, set⟩
        · obtain ⟨k, -, moves⟩ := step_moves s a
          rw [← task, ← done]
          exact (equips.watched y hy).moves moves equips.made
        · exact startTask_watched set equips.made
    · obtain ⟨opens, rfl⟩ := starts_anew sound a before after
      exact h.opens opens after

theorem Equipped.initial (attached : Bool) : (System.initial attached).Equipped := by
  refine ⟨fun e b hb => ?_, fun l live => absurd ?_ live⟩
  · have none : (System.initial attached).process.environment e = default := by
      cases attached <;> rfl
    rw [none] at hb
    cases hb
  · cases attached <;> rfl

end System

end EmbeddedPython
