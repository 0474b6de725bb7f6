import EmbeddedPython.Proofs.Handle.Stray

/-
  Quiet operations

  Taking references, giving them back and taking the lock have nothing to tell:
  they leave the memory, the pending exception and the log of exceptions as they
  are. An operation gives back every level of the lock that it takes, so that a
  thread that finds the lock open finds it open all along.
-/

namespace EmbeddedPython

variable {α β : Type} {g h i k : Host}

namespace Host

/-- Whether a thread finds the lock open: it has it already, or there is an interpreter. -/
def Admits (h : Host) (t : ThreadId) : Prop := h.lock.alive = true ∨ 0 < h.lock.depth t

theorem Admits.congr {t : ThreadId} (admits : h.Admits t)
    (interpreter : k.lock.interpreter = h.lock.interpreter)
    (level : k.lock.depth t = h.lock.depth t) : k.Admits t := by
  rcases admits with alive | held
  · exact .inl ((congrArg Option.isSome interpreter).trans alive)
  · exact .inr (level ▸ held)

/-- Whether two states agree in all that tells of exceptions. -/
structure Resembles (h k : Host) : Prop where
  memory : k.memory = h.memory
  pending : k.pending = h.pending
  raised : k.raised = h.raised

namespace Resembles

theorem refl (h : Host) : h.Resembles h := ⟨rfl, rfl, rfl⟩

theorem trans (gh : g.Resembles h) (hk : h.Resembles k) : g.Resembles k :=
  ⟨hk.memory.trans gh.memory, hk.pending.trans gh.pending, hk.raised.trans gh.raised⟩

end Resembles

end Host

namespace Op

/-! ## Levels of the lock -/

/-- Whether an operation gives back every level of the lock that it takes. -/
def Level (op : Op α) : Prop :=
  ∀ (t : ThreadId) (h : Host), (op.perform t h).2.lock.depth = h.lock.depth

namespace Level

theorem pure (a : α) : Level (Pure.pure a : Op α) := fun _ _ => rfl

theorem failure (f : Failure) : Level (Op.failure f : Op α) := fun _ _ => rfl

theorem update {f : Host → Host} {keeps : ∀ h : Host, h.Becomes (f h)}
    (lock : ∀ h, (f h).lock = h.lock) : Level (Op.update f keeps) :=
  fun _ h => congrArg Lock.depth (lock h)

theorem host : Level Op.host := fun _ _ => rfl

theorem andThen {body : Op α} {next : Except Failure α → Op β} (hb : Level body)
    (hn : ∀ r, Level (next r)) : Level (body.andThen next) :=
  fun t h => (hn _ t _).trans (hb t h)

theorem bind {body : Op α} {next : α → Op β} (hb : Level body) (hn : ∀ a, Level (next a)) :
    Level (body >>= next) := by
  refine hb.andThen fun r => ?_
  cases r with
  | ok a => exact hn a
  | error f => exact failure f

theorem ensuring {body : Op α} {last : Op Unit} (hb : Level body) (hl : Level last) :
    Level (Op.ensuring body last) := by
  refine hb.andThen fun r => hl.andThen fun r' => ?_
  cases r' with
  | ok _ => cases r <;> exact fun _ _ => rfl
  | error f => exact failure f

theorem onFailure {body : Op α} {last : Op Unit} (hb : Level body) (hl : Level last) :
    Level (Op.onFailure body last) := by
  refine hb.andThen fun r => ?_
  cases r with
  | ok a => exact pure a
  | error f => exact hl.andThen fun r' => by cases r' <;> exact failure _

theorem attempt {body : Op α} (hb : Level body) : Level (Op.attempt body) := by
  refine hb.andThen fun r => ?_
  rcases r with (e | text | _) | a
  · exact pure _
  · exact failure _
  · exact failure _
  · exact pure _

end Level

theorem admits_perform {op : Op α} (level : Level op) {t : ThreadId} (admits : h.Admits t) :
    (op.perform t h).2.Admits t :=
  admits.congr (op.keeps t h).interpreter (congrFun (level t h) t)

/-- Taking the lock succeeds where it is open. -/
theorem acquire_open {t : ThreadId} (admits : h.Admits t) :
    ∃ lock : Lock, acquire.perform t h = (.ok (), { h with lock := lock }) ∧
      ∀ u, lock.depth u = if u = t then h.lock.depth t + 1 else h.lock.depth u := by
  cases ht : h.lock.tryAcquire t with
  | ok lock => exact ⟨lock, by simp only [acquire, ht], Lock.tryAcquire_depth ht⟩
  | error e =>
    rcases admits with alive | held
    · obtain ⟨lock, -, hr⟩ := acquire_run (t := t) alive
      simp only [acquire, ht] at hr
      cases hr
    · simp only [Lock.tryAcquire, Nat.pos_iff_ne_zero.mp held, if_false] at ht
      cases ht

theorem acquire_closed {t : ThreadId} (closed : ¬ h.Admits t) :
    ∃ text, acquire.perform t h = (.error (.panic text), h) := by
  have none : h.lock.depth t = 0 := Nat.eq_zero_of_not_pos fun held => closed (.inr held)
  have gone : ¬ h.lock.alive = true := fun alive => closed (.inl alive)
  have ht : h.lock.tryAcquire t = .error .notInitialized := by
    rw [Lock.tryAcquire, if_pos none, if_neg gone]
  exact ⟨Lock.acquirePanic .notInitialized, by simp only [acquire, ht]⟩

theorem release_level (t : ThreadId) (h : Host) :
    ∃ k, release.perform t h = (.ok (), k) ∧ h.Resembles k ∧
      ∀ u, k.lock.depth u = if u = t then h.lock.depth t - 1 else h.lock.depth u := by
  have level := h.lock.release_depth t
  simp only [release, perform_bind, giveBack]
  generalize h.lock.release t = b at level ⊢
  obtain ⟨_ | _, lock⟩ := b
  · exact ⟨_, rfl, ⟨rfl, rfl, rfl⟩, level⟩
  · exact ⟨_, rfl, ⟨rfl, rfl, rfl⟩, level⟩

/-- Where the lock is open every operation goes on under it as without it. -/
theorem guarded_opens {t : ThreadId} (admits : h.Admits t) :
    ∃ i, h.Resembles i ∧ i.Admits t ∧ ∀ body : Op α, ∃ k,
      (guarded body).perform t h = ((body.perform t i).1, k) ∧
      (body.perform t i).2.Resembles k ∧ (Level body → k.lock.depth = h.lock.depth) := by
  obtain ⟨lock, ha, taken⟩ := acquire_open admits
  refine ⟨{ h with lock := lock }, ⟨rfl, rfl, rfl⟩, .inr ?_, fun body => ?_⟩
  · show 0 < lock.depth t
    rw [taken, if_pos rfl]
    exact Nat.succ_pos _
  obtain ⟨k, hr, hk, given⟩ := release_level t (body.perform t { h with lock := lock }).2
  refine ⟨k, ?_, hk, fun level => ?_⟩
  · rw [guarded, perform_bind, ha]
    show (Op.ensuring body release).perform t { h with lock := lock } = _
    rw [Op.ensuring, perform_andThen, perform_andThen, hr]
    rfl
  · funext u
    have kept : (body.perform t { h with lock := lock }).2.lock.depth = lock.depth := level t _
    rw [given, kept, taken, taken, if_pos rfl]
    split
    · next hu => rw [hu, Nat.add_sub_cancel]
    · rfl

theorem guarded_open (body : Op α) {t : ThreadId} (admits : h.Admits t) :
    ∃ i k, h.Resembles i ∧ i.Admits t ∧ (guarded body).perform t h = ((body.perform t i).1, k) ∧
      (body.perform t i).2.Resembles k ∧ (Level body → k.lock.depth = h.lock.depth) := by
  obtain ⟨i, hi, admits', runs⟩ := guarded_opens (α := α) admits
  obtain ⟨k, rest⟩ := runs body
  exact ⟨i, k, hi, admits', rest⟩

/-- Elsewhere it panics. -/
theorem guarded_closed (body : Op α) {t : ThreadId} (closed : ¬ h.Admits t) :
    ∃ text, (guarded body).perform t h = (.error (.panic text), h) := by
  obtain ⟨text, ha⟩ := acquire_closed closed
  exact ⟨text, by rw [guarded, perform_bind, ha]⟩

theorem Level.guarded {body : Op α} (hb : Level body) : Level (Op.guarded body) := by
  intro t h
  by_cases admits : h.Admits t
  · obtain ⟨i, k, -, -, hr, -, level⟩ := guarded_open body admits
    rw [hr]
    exact level hb
  · obtain ⟨text, hr⟩ := guarded_closed body admits
    rw [hr]

/-! ## Operations that have nothing to tell -/

/-- Whether an operation returns without touching anything that tells of exceptions. -/
def Quiet (op : Op α) : Prop :=
  Level op ∧ ∀ (t : ThreadId) (h : Host), ∃ a k, op.perform t h = (.ok a, k) ∧ h.Resembles k

namespace Quiet

theorem pure (a : α) : Quiet (Pure.pure a : Op α) := ⟨.pure a, fun _ h => ⟨a, h, rfl, .refl h⟩⟩

theorem bind {op : Op α} {next : α → Op β} (ho : Quiet op) (hn : ∀ a, Quiet (next a)) :
    Quiet (op >>= next) := by
  refine ⟨ho.1.bind fun a => (hn a).1, fun t h => ?_⟩
  obtain ⟨a, k, hr, hk⟩ := ho.2 t h
  obtain ⟨b, i, hi, ki⟩ := (hn a).2 t k
  exact ⟨b, i, by rw [perform_bind, hr]; exact hi, hk.trans ki⟩

theorem host : Quiet host := ⟨.host, fun _ h => ⟨h, h, rfl, .refl h⟩⟩

theorem memory : Quiet memory := .bind .host fun _ => .pure _

theorem update {f : Host → Host} {keeps : ∀ h : Host, h.Becomes (f h)}
    (lock : ∀ h, (f h).lock = h.lock) (resembles : ∀ h : Host, h.Resembles (f h)) :
    Quiet (Op.update f keeps) :=
  ⟨.update lock, fun _ h => ⟨(), f h, rfl, resembles h⟩⟩

theorem passing (refs : List Ref) : Quiet (passing refs) :=
  .update (fun _ => rfl) fun _ => ⟨rfl, rfl, rfl⟩

theorem hold (r : Ref) : Quiet (hold r) :=
  .update (fun _ => by split <;> rfl) fun _ => by split <;> exact ⟨rfl, rfl, rfl⟩

theorem letGo (r : Ref) : Quiet (letGo r) :=
  .update (fun _ => by split <;> rfl) fun _ => by split <;> exact ⟨rfl, rfl, rfl⟩

/-- What comes before a quiet last part is what counts. -/
theorem ensuring_run {last : Op Unit} (hl : Quiet last) (body : Op α) (t : ThreadId) (h : Host) :
    ∃ k, (ensuring body last).perform t h = ((body.perform t h).1, k) ∧
      (body.perform t h).2.Resembles k := by
  obtain ⟨a, k, hr, hk⟩ := hl.2 t (body.perform t h).2
  refine ⟨k, ?_, hk⟩
  rw [ensuring, perform_andThen, perform_andThen, hr]
  rfl

theorem onFailure_run {last : Op Unit} (hl : Quiet last) (body : Op α) (t : ThreadId) (h : Host) :
    ∃ k, (onFailure body last).perform t h = ((body.perform t h).1, k) ∧
      (body.perform t h).2.Resembles k := by
  rw [onFailure, perform_andThen]
  generalize body.perform t h = b
  obtain ⟨f | a, i⟩ := b
  · obtain ⟨a, k, hr, hk⟩ := hl.2 t i
    exact ⟨k, by rw [perform_andThen, hr]; rfl, hk⟩
  · exact ⟨i, rfl, .refl i⟩

end Quiet

end Op

namespace Handle

open Op

theorem dispose_quiet (x : Handle) : Quiet x.dispose := by
  constructor
  · simp only [dispose]
    split
    · exact .pure _
    · refine .bind .host fun h => ?_
      have back : Level (do Op.passing [x.ref]; Op.letGo x.ref) :=
        .bind (Quiet.passing _).1 fun _ => (Quiet.letGo _).1
      split
      · exact .bind back.guarded fun _ => .pure _
      · exact .pure _
  · intro t h
    cases alive : h.lock.alive with
    | false => exact ⟨_, h, x.dispose_of_not_alive t alive, .refl h⟩
    | true =>
      obtain ⟨lock, log, hl, hr⟩ := x.dispose_run t alive
      exact ⟨_, _, hr, rfl, rfl, rfl⟩

theorem drop_quiet (x : Handle) : Quiet x.drop := .bind x.dispose_quiet fun _ => .pure ()

theorem live_level (x : Handle) : Level x.live := by
  simp only [live]
  split
  · exact .failure _
  · exact .pure _

theorem spend_level {x : Handle} {body : Handle → Op α} (hb : Level (body x)) :
    Level (x.spend body) := hb.ensuring x.drop_quiet.1

theorem spend_run (x : Handle) (body : Handle → Op α) (t : ThreadId) (h : Host) :
    ∃ k, (x.spend body).perform t h = (((body x).perform t h).1, k) ∧
      ((body x).perform t h).2.Resembles k :=
  x.drop_quiet.ensuring_run (body x) t h

end Handle

end EmbeddedPython
