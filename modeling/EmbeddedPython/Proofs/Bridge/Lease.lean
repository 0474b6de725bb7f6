import EmbeddedPython.Proofs.Bridge.Change
import Mathlib.Data.Finset.Card
import Mathlib.Data.Finset.Range

/-
  Leases

  Every environment counts the drivers that it has started and that have not
  left (`Custody.counted`). The count is kept by the changes of the bridge, of
  which only two touch it: a new loop adds one driver to the count of its
  environment, and a driver that leaves takes itself off. The rest of `Custody`
  says what the count is good for: where an environment owns the interpreter,
  no other one has a driver, so that its own count is the count of all.
-/

namespace EmbeddedPython

open Bridge

namespace Process

/-- Whether the driver of a loop has been started and has not left. -/
def Live (p : Process) (l : LoopId) : Prop := (p.loop l).driver.phase ≠ .exited

instance (p : Process) (l : LoopId) : Decidable (p.Live l) := instDecidableNot

/-- The live drivers of an environment. -/
def drivers (p : Process) (e : EnvironmentId) : Finset LoopId :=
  (Finset.range p.loops.size).filter fun l => (p.loop l).environment = e ∧ p.Live l

theorem mem_drivers {p : Process} {e : EnvironmentId} {l : LoopId} :
    l ∈ p.drivers e ↔ (p.loop l).environment = e ∧ p.Live l := by
  simp only [drivers, Finset.mem_filter, Finset.mem_range, and_iff_right_iff_imp]
  exact fun h => lt_size_of_phase h.2

/-! ## Environments by number -/

theorem lt_size_of_bindings {p : Process} {e : EnvironmentId}
    (h : (p.environment e).bindings.isSome = true) : e < p.environments.size := by
  refine Nat.lt_of_not_le fun hn => ?_
  simp [environment, Array.getD, Nat.not_lt.mpr hn] at h
  cases h

theorem lt_size_of_leases {p : Process} {e : EnvironmentId} (h : (p.environment e).leases ≠ 0) :
    e < p.environments.size := by
  refine Nat.lt_of_not_le fun hn => h ?_
  simp [environment, Array.getD, Nat.not_lt.mpr hn]
  rfl

theorem environment_changeEnvironment (p : Process) (e : EnvironmentId)
    (f : Environment → Environment) (k : EnvironmentId) :
    (p.changeEnvironment e f).environment k =
      if k = e ∧ e < p.environments.size then f (p.environment e) else p.environment k :=
  getD_modify p.environments f default e k

/-! ## Who is in charge -/

/-- The same environments are there, with the same options, and each has the same part in the
interpreter. -/
structure SameOffices (p q : Process) : Prop where
  interpreter : q.host.lock.interpreter = p.host.lock.interpreter
  active : q.active = p.active
  started : q.environments.size = p.environments.size
  owns : ∀ e, (q.environment e).owns = (p.environment e).owns
  bindings : ∀ e, (q.environment e).bindings = (p.environment e).bindings
  closed : ∀ e, (q.environment e).closed = (p.environment e).closed
  options : ∀ e, (q.environment e).options = (p.environment e).options

namespace SameOffices

theorem refl (p : Process) : SameOffices p p :=
  ⟨rfl, rfl, rfl, fun _ => rfl, fun _ => rfl, fun _ => rfl, fun _ => rfl⟩

theorem trans {p q r : Process} (pq : SameOffices p q) (qr : SameOffices q r) :
    SameOffices p r where
  interpreter := qr.interpreter.trans pq.interpreter
  active := qr.active.trans pq.active
  started := qr.started.trans pq.started
  owns e := (qr.owns e).trans (pq.owns e)
  bindings e := (qr.bindings e).trans (pq.bindings e)
  closed e := (qr.closed e).trans (pq.closed e)
  options e := (qr.options e).trans (pq.options e)

theorem of_environments {p q : Process}
    (interpreter : q.host.lock.interpreter = p.host.lock.interpreter) (active : q.active = p.active)
    (environments : q.environments = p.environments) : SameOffices p q := by
  have he (e : EnvironmentId) : q.environment e = p.environment e := by
    simp only [environment, environments]
  exact ⟨interpreter, active, by rw [environments], fun e => by rw [he], fun e => by rw [he],
    fun e => by rw [he], fun e => by rw [he]⟩

theorem changeEnvironment (p : Process) (e : EnvironmentId) (f : Environment → Environment)
    (h : ∀ x, (f x).owns = x.owns ∧ (f x).bindings = x.bindings ∧ (f x).closed = x.closed ∧
      (f x).options = x.options) : SameOffices p (p.changeEnvironment e f) := by
  refine ⟨rfl, rfl, Array.size_modify, fun k => ?_, fun k => ?_, fun k => ?_, fun k => ?_⟩ <;>
    rw [environment_changeEnvironment] <;> split
  · next hk => rw [(h _).1, hk.1]
  · rfl
  · next hk => rw [(h _).2.1, hk.1]
  · rfl
  · next hk => rw [(h _).2.2.1, hk.1]
  · rfl
  · next hk => rw [(h _).2.2.2, hk.1]
  · rfl

theorem addLoop (p : Process) (x : Bridge.EventLoop) : SameOffices p (p.addLoop x) :=
  trans (q := { p with loops := p.loops.push x }) (of_environments rfl rfl rfl)
    (changeEnvironment _ _ _ fun _ => ⟨rfl, rfl, rfl, rfl⟩)

theorem exit (p : Process) (l : LoopId) : SameOffices p (p.exit l) :=
  trans (q := p.changeLoop l fun x => { x with driver := { x.driver with phase := .exited } })
    (of_environments rfl rfl rfl) (changeEnvironment _ _ _ fun _ => ⟨rfl, rfl, rfl, rfl⟩)

end SameOffices

/-! ## Changes that leave the count alone -/

/-- Nothing happens that the environments count, or that has to do with the interpreter. -/
structure Steady (p q : Process) : Prop extends SameOffices p q where
  leases : ∀ e, (q.environment e).leases = (p.environment e).leases
  loop : ∀ l, (q.loop l).environment = (p.loop l).environment ∧ (q.Live l ↔ p.Live l)

namespace Steady

theorem refl (p : Process) : Steady p p :=
  ⟨.refl p, fun _ => rfl, fun _ => ⟨rfl, .rfl⟩⟩

theorem trans {p q r : Process} (pq : Steady p q) (qr : Steady q r) : Steady p r where
  toSameOffices := pq.toSameOffices.trans qr.toSameOffices
  leases e := (qr.leases e).trans (pq.leases e)
  loop l := ⟨(qr.loop l).1.trans (pq.loop l).1, (qr.loop l).2.trans (pq.loop l).2⟩

theorem of_loops {p q : Process}
    (interpreter : q.host.lock.interpreter = p.host.lock.interpreter) (active : q.active = p.active)
    (environments : q.environments = p.environments) (loops : ∀ l, q.loop l = p.loop l) :
    Steady p q where
  toSameOffices := .of_environments interpreter active environments
  leases e := by simp only [environment, environments]
  loop l := by simp [Live, loops]

theorem of_idles {p q : Process} (h : p.Idles q) : Steady p q :=
  of_loops h.host.interpreter h.active h.environments h.loop

theorem changeLoop {p : Process} {l : LoopId} {f : Bridge.EventLoop → Bridge.EventLoop}
    (environment : (f (p.loop l)).environment = (p.loop l).environment)
    (phase : (f (p.loop l)).driver.phase = .exited ↔ (p.loop l).driver.phase = .exited) :
    Steady p (p.changeLoop l f) where
  toSameOffices := .of_environments rfl rfl rfl
  leases _ := rfl
  loop k := by
    simp only [Live, loop_changeLoop]
    split
    · next h =>
      rw [h.1]
      exact ⟨environment, not_congr phase⟩
    · exact ⟨rfl, .rfl⟩

theorem changePromise (p : Process) (i : PromiseId) (f : Bridge.Promise → Bridge.Promise) :
    Steady p (p.changePromise i f) := of_loops rfl rfl rfl fun _ => rfl

theorem settle (p : Process) (i : PromiseId) (o : Bridge.Outcome) : Steady p (p.settle i o) :=
  changePromise p i _

theorem log (p : Process) (e : Event) (l : LoopId) (i : PromiseId) : Steady p (p.log e l i) :=
  of_loops rfl rfl rfl fun _ => rfl

theorem record (p : Process) (e : Event) (l : LoopId) (r : Request) :
    Steady p (p.record e l r) := by
  simp only [Process.record]
  split
  · exact log p e l _
  · exact refl p

theorem answer (p : Process) (r : Request) (e : Error) : Steady p (p.answer r e) := by
  simp only [Process.answer]
  split
  · exact settle p _ _
  · exact refl p

theorem queue (p : Process) (l : LoopId) (r : Request) : Steady p (p.queue l r) :=
  .trans (changeLoop rfl .rfl) (record _ .queued l r)

theorem python (p : Process) (l : LoopId) (f : Loop → Loop) : Steady p (p.changePythonLoop l f) := by
  refine of_loops ?_ ?_ ?_ fun k => changePythonLoop_loop p l k f <;>
    simp only [changePythonLoop] <;> split <;> rfl

theorem drain {p : Process} {l : LoopId} (h : (p.loop l).driver.phase = .draining) :
    Steady p (p.drain l) := by
  simp only [Process.drain]
  split
  · exact refl p
  · next r rest _ =>
    refine .trans (changeLoop rfl ?_) (record _ .drained l r)
    cases r <;> simp [h, afterDraining]

theorem clear (p : Process) (l : LoopId) (e : Error) : Steady p (p.clear l e) := by
  simp only [Process.clear]
  split
  · exact refl p
  · next r rest _ =>
    exact .trans (.trans (changeLoop rfl .rfl) (record _ .cleared l r))
      (.trans (record _ .rejected l r) (answer _ r e))

theorem reject {p : Process} {l : LoopId} {i : PromiseId} (e : Error)
    (h : (p.loop l).driver.phase.promise? = some i) : Steady p (p.reject l i e) := by
  have live : (p.loop l).driver.phase ≠ .exited := fun hx => by simp [hx, Phase.promise?] at h
  have listening : Phase.draining ≠ .exited := nofun
  exact .trans (.trans (changeLoop rfl (iff_of_false listening live)) (log _ .rejected l i))
    (settle _ i _)

theorem accept {p : Process} {l : LoopId} {x : Tracked}
    (h : (p.loop l).driver.phase.promise? = some x.promise) : Steady p (p.accept l x) := by
  have live : (p.loop l).driver.phase ≠ .exited := fun hx => by simp [hx, Phase.promise?] at h
  have listening : Phase.draining ≠ .exited := nofun
  exact .trans (.trans (changeLoop rfl (iff_of_false listening live))
    (log _ .accepted l x.promise)) (changePromise _ x.promise _)

theorem finish (p : Process) (l : LoopId) (n : Nat) (o : Bridge.Outcome) :
    Steady p (p.finish l n o) := by
  simp only [Process.finish]
  split
  · exact refl p
  · next x _ =>
    exact .trans (.trans (changeLoop rfl .rfl) (log _ .finished l x.promise))
      (settle _ x.promise o)

end Steady

/-- Only a new loop and a driver that leaves have to do with the count. -/
theorem Change.steady {p q : Process} (h : Change p q) : Steady p q ∨
    (∃ x : Bridge.EventLoop, (p.environment x.environment).bindings.isSome = true ∧
      x.driver.phase = .entering ∧ q = p.addLoop x) ∨
    ∃ l, p.Live l ∧ q = p.exit l := by
  cases h with
  | idle h => exact .inl (.of_idles h)
  | python l f => exact .inl (.python p l f)
  | queue l r => exact .inl (.queue p l r)
  | drain l h => exact .inl (.drain h)
  | clear l e => exact .inl (.clear p l e)
  | shut l h => exact .inl (.changeLoop rfl .rfl)
  | reject l i e h => exact .inl (.reject e h)
  | accept l x h => exact .inl (.accept h)
  | finish l n o => exact .inl (.finish p l n o)
  | move l phase same before live idle =>
    exact .inl (.changeLoop rfl (iff_of_false live before))
  | stopping l => exact .inl (.changeLoop rfl .rfl)
  | retask l f h => exact .inl (.changeLoop rfl .rfl)
  | owners l f h =>
    obtain ⟨environment, -, -, driver⟩ := h (p.loop l)
    exact .inl (.changeLoop environment (by rw [driver]))
  | addLoop x isOpen requests notifier tasks phase => exact .inr (.inl ⟨x, isOpen, phase, rfl⟩)
  | exit l phase notifier requests => exact .inr (.inr ⟨l, by simp [Live, phase], rfl⟩)
  | abandon i => exact .inl (.changePromise p i _)
  | defaultLoop e l =>
    refine .inl ⟨.changeEnvironment p e _ fun _ => ⟨rfl, rfl, rfl, rfl⟩, fun k => ?_, fun _ => ⟨rfl, .rfl⟩⟩
    rw [environment_changeEnvironment]
    split
    · next hk => rw [hk.1]
    · rfl

/-! ## Changes of the count -/

theorem environment_addLoop {p : Process} {x : Bridge.EventLoop}
    (h : (p.environment x.environment).bindings.isSome = true) (e : EnvironmentId) :
    ((p.addLoop x).environment e).leases =
      (p.environment e).leases + if e = x.environment then 1 else 0 := by
  have hs : ({ p with loops := p.loops.push x }.environment x.environment).bindings.isSome = true :=
    h
  rw [addLoop, environment_changeEnvironment]
  simp only [lt_size_of_bindings hs, and_true]
  split
  · next he => subst he; rfl
  · rfl

theorem live_addLoop {p : Process} {x : Bridge.EventLoop} (phase : x.driver.phase = .entering)
    (l : LoopId) : (p.addLoop x).Live l ↔ p.Live l ∨ l = p.loops.size := by
  by_cases hl : l = p.loops.size
  · simp [Live, loop_addLoop, hl, phase]
  · simp [Live, loop_addLoop, hl]

theorem drivers_addLoop {p : Process} {x : Bridge.EventLoop} (phase : x.driver.phase = .entering)
    (e : EnvironmentId) : ((p.addLoop x).drivers e).card =
      (p.drivers e).card + if e = x.environment then 1 else 0 := by
  have old : p.loops.size ∉ p.drivers e := fun h =>
    Nat.lt_irrefl _ (lt_size_of_phase (mem_drivers.mp h).2)
  have member (l : LoopId) : l ∈ (p.addLoop x).drivers e ↔
      l ∈ p.drivers e ∨ (l = p.loops.size ∧ e = x.environment) := by
    rw [mem_drivers, mem_drivers, live_addLoop phase, loop_addLoop]
    by_cases hl : l = p.loops.size
    · have hn : ¬ p.Live l := fun h => Nat.lt_irrefl _ (hl ▸ lt_size_of_phase h)
      simp [hl, eq_comm]
      exact fun _ h => absurd (hl ▸ h) hn
    · simp [hl]
  by_cases he : e = x.environment
  · have hd : (p.addLoop x).drivers e = insert p.loops.size (p.drivers e) := by
      ext l
      rw [member, Finset.mem_insert, or_comm]
      simp [he]
    rw [hd, Finset.card_insert_of_notMem old, if_pos he]
  · have hd : (p.addLoop x).drivers e = p.drivers e := by
      ext l
      rw [member]
      simp [he]
    rw [hd, if_neg he]
    rfl

theorem live_exit {p : Process} {l : LoopId} (h : p.Live l) (k : LoopId) :
    (p.exit l).Live k ↔ p.Live k ∧ k ≠ l := by
  show (((p.changeLoop l _).loop k).driver.phase ≠ _) ↔ _
  rw [loop_changeLoop]
  by_cases hk : k = l
  · simp [hk, lt_size_of_phase h]
  · simp [hk, Live]

theorem environmentOf_exit (p : Process) (l k : LoopId) :
    ((p.exit l).loop k).environment = (p.loop k).environment := by
  show ((p.changeLoop l _).loop k).environment = _
  rw [loop_changeLoop]
  split
  · next h => rw [h.1]
  · rfl

theorem drivers_exit {p : Process} {l : LoopId} (h : p.Live l) (e : EnvironmentId) :
    (p.exit l).drivers e = (p.drivers e).erase l := by
  ext k
  rw [Finset.mem_erase, mem_drivers, mem_drivers, live_exit h, environmentOf_exit]
  tauto

/-! ## Custody -/

/-- The environments know who lives on the interpreter. -/
structure Custody (p : Process) : Prop where
  /-- an environment counts its drivers -/
  counted : ∀ e, (p.environment e).leases = (p.drivers e).card
  /-- where an environment owns the interpreter, all drivers are its own -/
  owned : ∀ e, (p.environment e).owns = true → ∀ l, p.Live l → (p.loop l).environment = e
  /-- without an interpreter there are no drivers -/
  absent : p.host.lock.interpreter = none → ∀ l, ¬ p.Live l
  /-- an environment that can start drivers has an interpreter, which no other one owns -/
  tenant : ∀ e, (p.environment e).bindings.isSome = true →
    p.host.lock.interpreter.isSome = true ∧ ∀ k, (p.environment k).owns = true → k = e

namespace Custody

theorem steady {p q : Process} (hp : Custody p) (h : Steady p q) : Custody q where
  counted e := by
    have hd : q.drivers e = p.drivers e := by
      ext l
      rw [mem_drivers, mem_drivers, (h.loop l).1, (h.loop l).2]
    rw [hd, h.leases, hp.counted]
  owned e he l hl := by
    rw [(h.loop l).1]
    exact hp.owned e (h.owns e ▸ he) l ((h.loop l).2.mp hl)
  absent hi l hl := hp.absent (h.interpreter ▸ hi) l ((h.loop l).2.mp hl)
  tenant e he := by
    obtain ⟨hi, hk⟩ := hp.tenant e (h.bindings e ▸ he)
    exact ⟨h.interpreter ▸ hi, fun k hko => hk k (h.owns k ▸ hko)⟩

theorem addLoop {p : Process} (hp : Custody p) {x : Bridge.EventLoop}
    (isOpen : (p.environment x.environment).bindings.isSome = true)
    (phase : x.driver.phase = .entering) : Custody (p.addLoop x) := by
  have h : SameOffices p (p.addLoop x) := .addLoop p x
  obtain ⟨alive, sole⟩ := hp.tenant _ isOpen
  refine ⟨fun e => ?_, fun e he l hl => ?_, fun hi => ?_, fun e he => ?_⟩
  · rw [environment_addLoop isOpen, drivers_addLoop phase, hp.counted]
  · rw [h.owns] at he
    rw [loop_addLoop]
    split
    · exact (sole e he).symm
    · next hn =>
      exact hp.owned e he l (((live_addLoop phase l).mp hl).resolve_right hn)
  · rw [h.interpreter] at hi
    rw [hi] at alive
    cases alive
  · rw [h.bindings] at he
    rw [h.interpreter]
    exact ⟨(hp.tenant e he).1, fun k hk => (hp.tenant e he).2 k (h.owns k ▸ hk)⟩

theorem exit {p : Process} (hp : Custody p) {l : LoopId} (live : p.Live l) :
    Custody (p.exit l) := by
  have h : SameOffices p (p.exit l) := .exit p l
  have gone {k : LoopId} (hk : (p.exit l).Live k) : p.Live k := ((live_exit live k).mp hk).1
  refine ⟨fun e => ?_, fun e he k hk => ?_, fun hi k hk => ?_, fun e he => ?_⟩
  · have mine : l ∈ p.drivers (p.loop l).environment := mem_drivers.mpr ⟨rfl, live⟩
    have counted : (p.environment (p.loop l).environment).leases ≠ 0 := by
      rw [hp.counted]
      exact Finset.card_ne_zero_of_mem mine
    rw [drivers_exit live, Process.exit, environment_changeEnvironment]
    split
    · next he =>
      rw [he.1, Finset.card_erase_of_mem mine, ← hp.counted]
      rfl
    · next he =>
      have other : e ≠ (p.loop l).environment := fun h => he ⟨h, lt_size_of_leases counted⟩
      have foreign : l ∉ p.drivers e := fun hm => other (mem_drivers.mp hm).1.symm
      rw [Finset.erase_eq_of_notMem foreign, ← hp.counted]
      rfl
  · rw [environmentOf_exit]
    exact hp.owned e (h.owns e ▸ he) k (gone hk)
  · exact hp.absent (h.interpreter ▸ hi) k (gone hk)
  · rw [h.bindings] at he
    rw [h.interpreter]
    exact ⟨(hp.tenant e he).1, fun k hk => (hp.tenant e he).2 k (h.owns k ▸ hk)⟩

end Custody

/-- Nobody is left who could start a driver, and no driver is left. -/
def Deserted (p : Process) : Prop :=
  (∀ e, (p.environment e).bindings = none) ∧ ∀ l, ¬ p.Live l

/-- Whatever happens between two processes leaves those in charge, and the accounts in order. -/
structure Orderly (p q : Process) : Prop where
  offices : SameOffices p q
  custody : Custody p → Custody q
  deserted : Deserted p → Deserted q

namespace Orderly

theorem refl (p : Process) : Orderly p p := ⟨.refl p, id, id⟩

theorem trans {p q r : Process} (pq : Orderly p q) (qr : Orderly q r) : Orderly p r :=
  ⟨pq.offices.trans qr.offices, qr.custody ∘ pq.custody, qr.deserted ∘ pq.deserted⟩

theorem of_steady {p q : Process} (h : Steady p q) : Orderly p q where
  offices := h.toSameOffices
  custody hp := hp.steady h
  deserted hp :=
    ⟨fun e => (h.bindings e).trans (hp.1 e), fun l hl => hp.2 l ((h.loop l).2.mp hl)⟩

theorem of_change {p q : Process} (h : Change p q) : Orderly p q := by
  rcases h.steady with hs | ⟨x, isOpen, phase, rfl⟩ | ⟨l, live, rfl⟩
  · exact of_steady hs
  · refine ⟨.addLoop p x, fun hp => hp.addLoop isOpen phase, fun hp => ?_⟩
    rw [hp.1] at isOpen
    cases isOpen
  · exact ⟨.exit p l, fun hp => hp.exit live, fun hp => absurd live (hp.2 l)⟩

theorem of_turns {p q : Process} (h : p.Turns q) : Orderly p q := by
  induction h with
  | refl => exact refl p
  | tail _ h ih => exact ih.trans (of_change h)

end Orderly

end Process

end EmbeddedPython
