import EmbeddedPython.Handle.Basic
import Mathlib.Algebra.BigOperators.Group.Multiset.Basic

/-
  Owning references

  The host owns a bag of references. `Op.Moves s op gains` says what an
  operation does to it: the operation takes over the references `s`, and what it
  returns stands for the references `gains`. Whatever the host owns besides
  stays as it is. An operation that fails has given back everything that it took
  over or got on the way, so that a failure in the middle leaves nothing behind.

  Using up the stack ends the process, and nothing is said about it.
-/

namespace EmbeddedPython

variable {α β : Type}

/-! ## States -/

/-- The interpreter is there, and the host owns the given references. -/
structure Host.Holds (h : Host) (owned : Multiset Ref) : Prop where
  alive : h.lock.alive = true
  held : (h.held : Multiset Ref) = owned

/-- Besides, no exception is pending. -/
structure Host.Owns (h : Host) (owned : Multiset Ref) : Prop extends h.Holds owned where
  clear : h.pending = none

theorem Host.Owns.congr {h : Host} {a b : Multiset Ref} (ho : h.Owns a) (hab : a = b) :
    h.Owns b := hab ▸ ho

theorem Host.Holds.congr {h : Host} {a b : Multiset Ref} (ho : h.Holds a) (hab : a = b) :
    h.Holds b := hab ▸ ho

/-- The references that a handle stands for. -/
def Handle.owned (x : Handle) : Multiset Ref :=
  if x.disposed || x.isImmortal then 0 else {x.ref}

/-- The lock after a thread has taken it and given it back, and whether there was nothing to give. -/
def Lock.crossed (l : Lock) (t : ThreadId) : Bool × Lock :=
  match l.tryAcquire t with
  | .ok taken => taken.release t
  | .error _ => (false, l)

theorem Lock.tryAcquire_alive {l : Lock} (t : ThreadId) (alive : l.alive = true) :
    ∃ taken, l.tryAcquire t = .ok taken := by
  simp only [tryAcquire, alive, if_true]
  split <;> exact ⟨_, rfl⟩

theorem Lock.crossed_eq {l taken : Lock} {t : ThreadId} (took : l.tryAcquire t = .ok taken) :
    l.crossed t = taken.release t := by
  rw [crossed, took]

theorem Lock.crossed_interpreter (l : Lock) (t : ThreadId) :
    (l.crossed t).2.interpreter = l.interpreter := by
  cases took : l.tryAcquire t with
  | ok taken => rw [crossed_eq took, release_interpreter, tryAcquire_interpreter took]
  | error e => rw [crossed, took]

namespace Op

/-! ## What an operation leads to -/

/-- Where `P` holds, an operation leads to `Q`, unless it uses up the stack. -/
def Leads (P : Host → Prop) (op : Op α) (Q : Except Failure α → Host → Prop) : Prop :=
  ∀ (t : ThreadId) (h : Host), P h → (op.perform t h).1 ≠ .error .overflow →
    Q (op.perform t h).1 (op.perform t h).2

/-- Whether an operation never fails while the interpreter is there. -/
def Safe (op : Op α) : Prop :=
  ∀ (t : ThreadId) (h : Host), h.lock.alive = true → ∃ a, (op.perform t h).1 = .ok a

/-- Whether an operation never fails while the interpreter is there, unless it uses up the stack. -/
def Certain (op : Op α) : Prop :=
  ∀ (t : ThreadId) (h : Host), h.lock.alive = true → (op.perform t h).1 ≠ .error .overflow →
    ∃ a, (op.perform t h).1 = .ok a

theorem Safe.certain {op : Op α} (h : Safe op) : Certain op := fun t k alive _ => h t k alive

namespace Safe

theorem pure (a : α) : Safe (Pure.pure a) := fun _ _ _ => ⟨a, rfl⟩

theorem update (f : Host → Host) (keeps : ∀ h : Host, h.Becomes (f h)) : Safe (Op.update f keeps) :=
  fun _ _ _ => ⟨(), rfl⟩

end Safe

theorem alive_perform (op : Op α) (t : ThreadId) {h : Host} (alive : h.lock.alive = true) :
    (op.perform t h).2.lock.alive = true := by
  rw [Lock.alive, (op.keeps t h).interpreter]
  exact alive

theorem Safe.bind {op : Op α} {next : α → Op β} (ho : Safe op) (hn : ∀ a, Safe (next a)) :
    Safe (op >>= next) := by
  intro t h alive
  obtain ⟨a, ha⟩ := ho t h alive
  obtain ⟨b, hb⟩ := hn a t _ (alive_perform op t alive)
  refine ⟨b, ?_⟩
  rw [perform_bind, show op.perform t h = (.ok a, (op.perform t h).2) from Prod.ext ha rfl]
  exact hb

namespace Certain

theorem bind {op : Op α} {next : α → Op β} (ho : Certain op) (hn : ∀ a, Certain (next a)) :
    Certain (op >>= next) := by
  intro t h alive hover
  have alive' := alive_perform op t alive
  have certain := ho t h alive
  rw [perform_bind] at hover ⊢
  generalize op.perform t h = b at alive' certain hover ⊢
  obtain ⟨r | a, k⟩ := b
  · obtain ⟨a, ha⟩ := certain fun he => hover (congrArg _ (Except.error.inj he))
    cases ha
  · exact hn a t k alive' hover

theorem caught (body : Op α) : Certain (Op.caught body) := by
  intro t h _ hover
  simp only [Op.caught, perform_andThen] at hover ⊢
  generalize body.perform t h = b at hover ⊢
  obtain ⟨(e | text | _) | a, k⟩ := b
  · exact ⟨_, rfl⟩
  · exact ⟨_, rfl⟩
  · exact absurd rfl hover
  · exact ⟨_, rfl⟩

end Certain

namespace Leads

variable {P P' : Host → Prop} {Q Q' : Except Failure α → Host → Prop}
  {R : Except Failure β → Host → Prop}

theorem mono {op : Op α} (h : Leads P op Q) (hP : ∀ h, P' h → P h) (hQ : ∀ r h, Q r h → Q' r h) :
    Leads P' op Q' :=
  fun t k hp ho => hQ _ _ (h t k (hP k hp) ho)

theorem done (result : Except Failure α) : Leads P (Op.done result) fun r h => r = result ∧ P h :=
  fun _ _ hp _ => ⟨rfl, hp⟩

theorem pure {a : α} (h : ∀ k, P k → Q (.ok a) k) : Leads P (Pure.pure a) Q :=
  fun _ k hp _ => h k hp

theorem failure {f : Failure} (h : ∀ k, P k → Q (.error f) k) : Leads P (Op.failure f) Q :=
  fun _ k hp _ => h k hp

/-- One operation after another. A first one that uses up the stack is the end. -/
theorem andThen {body : Op α} {next : Except Failure α → Op β} (hb : Leads P body Q)
    (spent : ∀ t h, ((next (.error .overflow)).perform t h).1 = .error .overflow)
    (hn : ∀ r, Leads (Q r) (next r) R) : Leads P (body.andThen next) R := by
  intro t h hp ho
  rw [perform_andThen] at ho ⊢
  by_cases hr : (body.perform t h).1 = .error .overflow
  · rw [hr] at ho
    exact absurd (spent t _) ho
  · exact hn _ t _ (hb t h hp hr) ho

theorem bind {body : Op α} {next : α → Op β} (hb : Leads P body Q)
    (hn : ∀ a, Leads (Q (.ok a)) (next a) R) (he : ∀ f h, Q (.error f) h → R (.error f) h) :
    Leads P (body >>= next) R := by
  refine hb.andThen (fun _ _ => rfl) fun r => ?_
  cases r with
  | ok a => exact hn a
  | error f => exact failure (he f)

theorem host_bind {next : Host → Op β} (h : ∀ k, P k → Leads (· = k) (next k) R) :
    Leads P (Op.host >>= next) R :=
  fun t k hp ho => h k hp t k rfl ho

theorem update {f : Host → Host} {keeps : ∀ h : Host, h.Becomes (f h)}
    {Q : Except Failure Unit → Host → Prop} (h : ∀ k, P k → Q (.ok ()) (f k)) :
    Leads P (Op.update f keeps) Q :=
  fun _ k hp _ => h k hp

/-- A last part that never fails runs whatever happened before. -/
theorem ensuring {body : Op α} {last : Op Unit} (hP : ∀ h, P h → h.lock.alive = true)
    (hb : Leads P body Q) (safe : Safe last) (hl : ∀ r, Leads (Q r) last fun _ h => Q' r h) :
    Leads P (Op.ensuring body last) Q' := by
  intro t h hp ho
  have alive : (body.perform t h).2.lock.alive = true := alive_perform body t (hP h hp)
  obtain ⟨a, ha⟩ := safe t _ alive
  have hr : (Op.ensuring body last).perform t h =
      ((body.perform t h).1, (last.perform t (body.perform t h).2).2) := by
    rw [Op.ensuring, perform_andThen, perform_andThen, ha]
    rfl
  rw [hr] at ho ⊢
  exact hl _ t _ (hb t h hp ho) (by rw [ha]; nofun)

/-- A last part that never fails runs after a failure. -/
theorem onFailure {body : Op α} {last : Op Unit} (hP : ∀ h, P h → h.lock.alive = true)
    (hb : Leads P body Q) (safe : Safe last) (ho : ∀ a h, Q (.ok a) h → Q' (.ok a) h)
    (hl : ∀ f, Leads (Q (.error f)) last fun _ h => Q' (.error f) h) :
    Leads P (Op.onFailure body last) Q' := by
  intro t h hp hover
  have alive : (body.perform t h).2.lock.alive = true := alive_perform body t (hP h hp)
  obtain ⟨a, ha⟩ := safe t _ alive
  cases hr : (body.perform t h).1 with
  | ok b =>
    have he : (Op.onFailure body last).perform t h = (.ok b, (body.perform t h).2) := by
      rw [Op.onFailure, perform_andThen, hr]
      rfl
    rw [he]
    have := hb t h hp (by rw [hr]; nofun)
    rw [hr] at this
    exact ho b _ this
  | error f =>
    have he : (Op.onFailure body last).perform t h =
        (.error f, (last.perform t (body.perform t h).2).2) := by
      rw [Op.onFailure, perform_andThen, hr]
      simp only [perform_andThen, ha]
      rfl
    rw [he] at hover ⊢
    have hq := hb t h hp (by rw [hr]; exact hover)
    rw [hr] at hq
    exact hl f t _ hq (by rw [ha]; nofun)

theorem attempt {body : Op α} {R : Except Failure (Except Error α) → Host → Prop}
    (hb : Leads P body Q) (ho : ∀ a h, Q (.ok a) h → R (.ok (.ok a)) h)
    (he : ∀ e h, Q (.error (.error e)) h → R (.ok (.error e)) h)
    (hp : ∀ text h, Q (.error (.panic text)) h → R (.error (.panic text)) h) :
    Leads P (Op.attempt body) R := by
  refine hb.andThen (fun _ _ => rfl) fun r => ?_
  rcases r with (e | text | _) | a
  · exact pure (he e)
  · exact failure (hp text)
  · exact fun t k _ ho => absurd rfl ho
  · exact pure (ho a)

theorem caught {body : Op α} {R : Except Failure (Except Failure α) → Host → Prop}
    (hb : Leads P body Q) (h : ∀ r k, Q r k → R (.ok r) k) : Leads P (Op.caught body) R := by
  refine hb.andThen (fun _ _ => rfl) fun r => ?_
  rcases r with (e | text | _) | a
  · exact pure (h _)
  · exact pure (h _)
  · exact fun t k _ ho => absurd rfl ho
  · exact pure (h _)

end Leads

/-! ## The lock -/

theorem acquire_eq {t : ThreadId} {h : Host} {taken : Lock} (took : h.lock.tryAcquire t = .ok taken) :
    acquire.perform t h = (.ok (), { h with lock := taken }) := by
  simp only [acquire, took]

theorem acquire_run {t : ThreadId} {h : Host} (alive : h.lock.alive = true) :
    ∃ lock : Lock, lock.interpreter = h.lock.interpreter ∧
      acquire.perform t h = (.ok (), { h with lock := lock }) := by
  obtain ⟨taken, took⟩ := Lock.tryAcquire_alive t alive
  exact ⟨taken, Lock.tryAcquire_interpreter took, acquire_eq took⟩

theorem release_eq (t : ThreadId) (h : Host) : release.perform t h = (.ok (), { h with
    lock := (h.lock.release t).2
    log := h.log ++ if (h.lock.release t).1 then [.warning Lock.unbalancedWarning] else [] }) := by
  simp only [release, perform_bind, giveBack]
  rcases h.lock.release t with ⟨_ | _, lock⟩
  · show (_, _) = (_, _)
    simp
  · rfl

theorem release_run (t : ThreadId) (h : Host) : ∃ (lock : Lock) (log : List LogMessage),
    lock.interpreter = h.lock.interpreter ∧
      release.perform t h = (.ok (), { h with lock := lock, log := log }) :=
  ⟨_, _, h.lock.release_interpreter t, release_eq t h⟩

theorem guarded_eq {body : Op α} {t : ThreadId} {h : Host} {taken : Lock}
    (took : h.lock.tryAcquire t = .ok taken) : (guarded body).perform t h =
      ((body.perform t { h with lock := taken }).1,
        (release.perform t (body.perform t { h with lock := taken }).2).2) := by
  rw [guarded, perform_bind, acquire_eq took]
  show (Op.ensuring body release).perform t { h with lock := taken } = _
  rw [Op.ensuring, perform_andThen, perform_andThen, release_eq]
  rfl

/-- Under the lock everything goes on as without it; the lock stays with its interpreter. -/
theorem guarded_run (body : Op α) (t : ThreadId) {h : Host} (alive : h.lock.alive = true) :
    ∃ (taken lock : Lock) (log : List LogMessage),
      taken.interpreter = h.lock.interpreter ∧ lock.interpreter = h.lock.interpreter ∧
      (guarded body).perform t h =
        ((body.perform t { h with lock := taken }).1,
          { (body.perform t { h with lock := taken }).2 with lock := lock, log := log }) := by
  obtain ⟨taken, took⟩ := Lock.tryAcquire_alive t alive
  have ht := Lock.tryAcquire_interpreter took
  obtain ⟨lock, log, hl, hr⟩ := release_run t (body.perform t { h with lock := taken }).2
  refine ⟨taken, lock, log, ht, ?_, by rw [guarded_eq took, hr]⟩
  exact hl.trans ((body.keeps t { h with lock := taken }).interpreter.trans ht)

theorem Safe.guarded {body : Op α} (hb : Safe body) : Safe (Op.guarded body) := by
  intro t h alive
  obtain ⟨taken, lock, log, ht, -, hr⟩ := guarded_run body t alive
  obtain ⟨a, ha⟩ := hb t { h with lock := taken } ((congrArg Option.isSome ht).trans alive)
  exact ⟨a, by rw [hr, ha]⟩

/-- Whatever is owned under the lock is owned without it. -/
theorem Leads.guarded {P : Host → Prop} {Q : Except Failure α → Host → Prop} {body : Op α}
    (hP : ∀ h, P h → h.lock.alive = true)
    (taking : ∀ (h : Host) (taken : Lock), taken.interpreter = h.lock.interpreter → P h →
      P { h with lock := taken })
    (giving : ∀ (r : Except Failure α) (h : Host) (lock : Lock) (log : List LogMessage),
      lock.interpreter = h.lock.interpreter → Q r h → Q r { h with lock := lock, log := log })
    (hb : Leads P body Q) : Leads P (Op.guarded body) Q := by
  intro t h hp ho
  obtain ⟨taken, lock, log, ht, hl, hr⟩ := guarded_run body t (hP h hp)
  rw [hr] at ho ⊢
  refine giving _ _ lock log ?_ (hb t _ (taking h taken ht hp) ho)
  exact hl.trans (ht.symm.trans (body.keeps t { h with lock := taken }).interpreter.symm)

/-- Whatever is owned with the lock is owned while the lock is given up. -/
theorem Leads.allowingThreads {P : Host → Prop} {Q : Except Failure α → Host → Prop} {body : Op α}
    (hP : ∀ h, P h → h.lock.alive = true)
    (giving : ∀ (h : Host) (lock : Lock), lock.interpreter = h.lock.interpreter → P h →
      P { h with lock := lock })
    (taking : ∀ (r : Except Failure α) (h : Host) (lock : Lock),
      lock.interpreter = h.lock.interpreter → Q r h → Q r { h with lock := lock })
    (hb : Leads P body Q) : Leads P (Op.allowingThreads body) Q := by
  have given : Leads P suspend fun r h => (∃ s, r = .ok s) ∧ P h :=
    fun t h hp _ => ⟨⟨_, rfl⟩, giving h _ (h.lock.suspend_interpreter t) hp⟩
  refine given.bind (fun suspension => ?_) fun f h hr => nomatch hr.1
  refine Leads.ensuring (fun h hp => hP h hp.2) (hb.mono (fun h hp => hp.2) fun _ _ => id)
    (fun t h _ => ?_) fun r => ?_
  · cases suspension <;> exact ⟨(), rfl⟩
  · cases suspension with
    | none => exact .pure fun _ => id
    | some levels =>
      exact fun t h hq _ => taking r h _ (h.lock.resume_interpreter t levels) hq

/-! ## What an operation takes over and what it gives -/

/-- An operation takes over the references `s`, and its result stands for `gains`; one that fails
has given everything back. -/
def Moves (s : Multiset Ref) (op : Op α) (gains : α → Multiset Ref) : Prop :=
  ∀ rest : Multiset Ref, Leads (·.Owns (s + rest)) op fun r h =>
    h.Owns ((match r with
      | .ok a => gains a
      | .error _ => 0) + rest)

namespace Moves

variable {s u : Multiset Ref} {gains : α → Multiset Ref} {more : β → Multiset Ref}

theorem mono {op : Op α} (h : Moves s op gains) (hs : u = s) {gains' : α → Multiset Ref}
    (hg : ∀ a, gains a = gains' a) : Moves u op gains' := by
  subst hs
  obtain rfl : gains = gains' := funext hg
  exact h

theorem leads {op : Op α} (h : Moves 0 op fun _ => 0) (owned : Multiset Ref) :
    Leads (·.Owns owned) op fun _ k => k.Owns owned :=
  (h owned).mono (fun _ hk => hk.congr (zero_add _).symm) fun r _ hk => by
    cases r <;> exact hk.congr (zero_add _)

theorem pure (a : α) (h : s = gains a) : Moves s (Pure.pure a) gains :=
  fun rest => .pure fun _ hk => hk.congr (congrArg (· + rest) h)

theorem failure (f : Failure) : Moves 0 (Op.failure f) gains := fun _ => .failure fun _ hk => hk

theorem fail (e : Error) : Moves 0 (Op.fail e) gains := failure (.error e)

theorem bind {op : Op α} {next : α → Op β} (ho : Moves s op gains)
    (hn : ∀ a, Moves (gains a) (next a) more) : Moves s (op >>= next) more :=
  fun rest => (ho rest).bind (fun a => hn a rest) fun _ _ => id

theorem host_bind {next : Host → Op β}
    (h : ∀ k : Host, k.lock.alive = true → Moves s (next k) more) :
    Moves s (Op.host >>= next) more :=
  fun rest => .host_bind fun k hk => (h k hk.alive rest).mono (fun _ hh => hh ▸ hk) fun _ _ => id

theorem ofExcept (r : Except Error α) : Moves 0 (Op.ofExcept r) fun _ => 0 := by
  cases r with
  | ok a => exact pure a rfl
  | error e => exact fail e

/-- An operation that never fails can be carried out with more in hand. -/
theorem carry {op : Op α} (h : Moves s op gains) (certain : Certain op) (u : Multiset Ref) :
    Moves (s + u) op fun a => gains a + u := by
  intro rest t k hk ho
  obtain ⟨a, ha⟩ := certain t k hk.alive ho
  have hq := h (u + rest) t k (hk.congr (add_assoc s u rest)) ho
  rw [ha] at hq ⊢
  exact hq.congr (add_assoc _ u rest).symm

/-- What the last part gives back may be used before. -/
theorem ensuring {body : Op α} {last : Op Unit} (hb : Moves s body gains)
    (hl : Moves u last fun _ => 0) (safe : Safe last) :
    Moves (u + s) (Op.ensuring body last) gains := by
  intro rest
  refine Leads.ensuring (fun h hp => hp.alive) ((hb (u + rest)).mono ?_ fun _ _ => id) safe
    fun r => ?_
  · exact fun h hp => hp.congr (by rw [add_assoc, add_left_comm])
  · intro t h hq ho
    obtain ⟨a, ha⟩ := safe t h hq.alive
    have := hl _ t h (hq.congr (add_left_comm _ u rest)) ho
    rw [ha] at this
    exact this.congr (zero_add _)

/-- What the last part gives back stays where there is no failure. -/
theorem onFailure {body : Op α} {last : Op Unit} (hb : Moves s body gains)
    (hl : Moves u last fun _ => 0) (safe : Safe last) :
    Moves (u + s) (Op.onFailure body last) fun a => gains a + u := by
  intro rest
  refine Leads.onFailure (fun h hp => hp.alive) ((hb (u + rest)).mono ?_ fun _ _ => id) safe ?_
    fun f => ?_
  · exact fun h hp => hp.congr (by rw [add_assoc, add_left_comm])
  · exact fun a h hq => hq.congr (add_assoc _ _ _).symm
  · intro t h hq ho
    obtain ⟨a, ha⟩ := safe t h hq.alive
    have := hl rest t h (hq.congr (zero_add _)) ho
    rw [ha] at this
    exact this

theorem guarded {body : Op α} (hb : Moves s body gains) : Moves s (Op.guarded body) gains := by
  intro rest
  refine Leads.guarded (fun h hp => hp.alive) ?_ ?_ (hb rest)
  · exact fun h l hl hp => ⟨⟨(congrArg Option.isSome hl).trans hp.alive, hp.held⟩, hp.clear⟩
  · exact fun r h l log hl hp => ⟨⟨(congrArg Option.isSome hl).trans hp.alive, hp.held⟩, hp.clear⟩

theorem attempt {body : Op α} (hb : Moves s body gains) :
    Moves s (Op.attempt body) fun
      | .ok a => gains a
      | .error _ => 0 :=
  fun rest => (hb rest).attempt (fun _ _ => id) (fun _ _ => id) fun _ _ => id

theorem caught {body : Op α} (hb : Moves s body gains) :
    Moves s (Op.caught body) fun
      | .ok a => gains a
      | .error _ => 0 :=
  fun rest => (hb rest).caught fun r _ => by cases r <;> exact id

/-- An operation that owes nothing and gives nothing. -/
theorem update {f : Host → Host} {keeps : ∀ h : Host, h.Becomes (f h)}
    (held : ∀ h, (f h).held = h.held) (pending : ∀ h, (f h).pending = h.pending) :
    Moves 0 (Op.update f keeps) fun _ => 0 := by
  refine fun rest => .update fun k hk => ⟨⟨?_, ?_⟩, ?_⟩
  · rw [Lock.alive, (keeps k).interpreter]
    exact hk.alive
  · rw [held, hk.held]
  · rw [pending, hk.clear]

theorem passing (refs : List Ref) : Moves 0 (Op.passing refs) fun _ => 0 :=
  update (fun _ => rfl) fun _ => rfl

theorem note (m : LogMessage) : Moves 0 (Op.note m) fun _ => 0 :=
  update (fun _ => rfl) fun _ => rfl

end Moves

/-! ## One reference -/

theorem hold_moves (r : Ref) : Moves 0 (hold r) fun _ => (Handle.adopt r).owned := by
  refine fun rest => .update fun k hk => ?_
  cases hr : r.isImmortal with
  | true => simpa [Handle.owned, Handle.adopt, Handle.isImmortal, hr] using hk
  | false =>
    refine ⟨⟨hk.alive, ?_⟩, hk.clear⟩
    have held := hk.held
    simp [Handle.owned, Handle.adopt, Handle.isImmortal, hr] at held ⊢
    rw [← Multiset.cons_coe, held]

theorem letGo_moves (r : Ref) : Moves (Handle.adopt r).owned (letGo r) fun _ => 0 := by
  refine fun rest => .update fun k hk => ?_
  cases hr : r.isImmortal with
  | true => simpa [Handle.owned, Handle.adopt, Handle.isImmortal, hr] using hk
  | false =>
    refine ⟨⟨hk.alive, ?_⟩, hk.clear⟩
    have held := hk.held
    simp [Handle.owned, Handle.adopt, Handle.isImmortal, hr] at held ⊢
    rw [← Multiset.coe_erase, held, Multiset.erase_cons_head]

end Op

namespace Handle

open Op

theorem live_moves (x : Handle) : Moves 0 x.live fun _ => 0 := by
  simp only [live]
  split
  · exact .fail _
  · exact .pure _ rfl

/-- The pointer that disposing of a handle passes on, if it is to an object of another interpreter. -/
def stray (x : Handle) (h : Host) : List Ref :=
  if x.disposed || x.isImmortal || h.isCurrent x.ref then [] else [x.ref]

/-- No object gets to be one of another interpreter. -/
theorem stray_perform (x : Handle) (op : Op α) (t : ThreadId) (h : Host) :
    x.stray (op.perform t h).2 = x.stray h := by
  have same : (op.perform t h).2.isCurrent x.ref = h.isCurrent x.ref := by
    cases x.ref <;> simp [Host.isCurrent, (op.keeps t h).born]
  simp only [stray, same]

/-- Disposing of a handle gives its reference back, once, whatever is pending. -/
theorem dispose_eq (x : Handle) (t : ThreadId) {h : Host} (alive : h.lock.alive = true) :
    x.dispose.perform t h = (.ok { x with disposed := true },
      if x.disposed || x.isImmortal then h else { h with
        lock := (h.lock.crossed t).2
        log := h.log ++ (if (h.lock.crossed t).1 then [.warning Lock.unbalancedWarning] else [])
        strays := x.stray h ++ h.strays
        held := h.held.erase x.ref }) := by
  obtain ⟨ref, disposed⟩ := x
  cases disposed with
  | true => rfl
  | false =>
    cases hi : ref.isImmortal with
    | true =>
      simp only [dispose, isImmortal, hi]
      rfl
    | false =>
      let back : Op Unit := do
        Op.passing [ref]
        Op.letGo ref
      obtain ⟨taken, took⟩ := Lock.tryAcquire_alive t alive
      have passed : stray ⟨ref, false⟩ h = ([ref].filter fun r => !h.isCurrent r).reverse := by
        cases hc : h.isCurrent ref <;> simp [stray, isImmortal, hi, hc]
      have hb : back.perform t { h with lock := taken } = (.ok (), { h with
          lock := taken
          strays := stray ⟨ref, false⟩ h ++ h.strays
          held := h.held.erase ref }) := by
        rw [passed]
        show (_, if ref.isImmortal then _ else _) = _
        rw [if_neg (hi ▸ Bool.false_ne_true)]
        rfl
      have hd : dispose ⟨ref, false⟩ = Op.host >>= fun k => if k.lock.alive then do
          Op.guarded back
          pure ⟨ref, true⟩ else pure ⟨ref, true⟩ := by
        simp only [dispose, isImmortal, hi]
        rfl
      rw [hd, perform_bind]
      show (if h.lock.alive then _ else _ : Op Handle).perform t h = _
      rw [if_pos alive, perform_bind, guarded_eq took, hb]
      simp only [isImmortal, hi, Lock.crossed_eq took]
      rw [release_eq]
      rfl

/-- The lock stays with its interpreter. -/
theorem dispose_run (x : Handle) (t : ThreadId) {h : Host} (alive : h.lock.alive = true) :
    ∃ (lock : Lock) (log : List LogMessage),
      lock.interpreter = h.lock.interpreter ∧ x.dispose.perform t h =
        (.ok { x with disposed := true }, { h with
          lock := lock, log := log, strays := x.stray h ++ h.strays
          held := if x.disposed || x.isImmortal then h.held else h.held.erase x.ref }) := by
  rw [x.dispose_eq t alive]
  cases usable : x.disposed || x.isImmortal with
  | true =>
    refine ⟨h.lock, h.log, rfl, ?_⟩
    simp [stray, usable]
  | false => exact ⟨_, _, h.lock.crossed_interpreter t, rfl⟩

theorem dispose_result (x : Handle) (t : ThreadId) {h : Host} (alive : h.lock.alive = true) :
    (x.dispose.perform t h).1 = .ok { x with disposed := true } := by
  obtain ⟨lock, log, -, hr⟩ := x.dispose_run t alive
  rw [hr]

/-- What is left after a handle has been disposed of. -/
theorem dispose_leads (x : Handle) (s : Multiset Ref) :
    Leads (·.Holds (x.owned + s)) x.dispose fun _ h => h.Holds s := by
  intro t h hh _
  obtain ⟨lock, log, hl, hr⟩ := x.dispose_run t hh.alive
  rw [hr]
  refine ⟨(congrArg Option.isSome hl).trans hh.alive, ?_⟩
  have held := hh.held
  cases ho : x.disposed || x.isImmortal with
  | true => simpa [owned, ho] using held
  | false =>
    simp only [owned, ho] at held
    show ((h.held.erase x.ref : List Ref) : Multiset Ref) = s
    rw [← Multiset.coe_erase, held]
    exact Multiset.erase_cons_head _ _

theorem dispose_moves (x : Handle) : Moves x.owned x.dispose fun _ => 0 := by
  intro rest t h ho hover
  have hh := x.dispose_leads rest t h ho.toHolds hover
  obtain ⟨lock, log, -, hr⟩ := x.dispose_run t ho.alive
  rw [hr] at hh ⊢
  exact ⟨hh.congr (zero_add _).symm, ho.clear⟩

theorem drop_moves (x : Handle) : Moves x.owned x.drop fun _ => 0 :=
  .bind x.dispose_moves fun _ => .pure () rfl

theorem drop_leads (x : Handle) (s : Multiset Ref) :
    Leads (·.Holds (x.owned + s)) x.drop fun _ h => h.Holds s :=
  (x.dispose_leads s).bind (fun _ => .pure fun _ => id) fun _ _ => id

theorem drop_safe (x : Handle) : Safe x.drop :=
  .bind (fun t _ alive => ⟨_, x.dispose_result t alive⟩) fun _ => .pure ()

end Handle

end EmbeddedPython
