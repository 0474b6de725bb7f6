import EmbeddedPython.Proofs.Lock.Course

/-
  A thread knows whether it owns the lock

  The host counts the levels of a thread and keeps what its outermost taking
  found. In every program this account agrees with the lock all along
  (`Sound`): the lock is taken from the interpreter with the first level and
  given back with the last one.

  A closure that releases what it acquired by itself ends with the levels it
  began with, and the calls on thread states are bracketed (`Balanced`).
-/

namespace EmbeddedPython.Lock

variable {t : ThreadId} {l k : Lock}

/-- Whether the account of a thread agrees with the lock. The thread has levels as long as it holds
the lock, and its outermost taking found the lock free. -/
structure Sound (t : ThreadId) (l : Lock) : Prop where
  alive : l.alive = true
  holder : l.holder = if l.depth t = 0 then none else some t
  prior : (l.thread t).prior = if l.depth t = 0 then none else some .free

/-- The calls on thread states, latest first. -/
def made (l : Lock) : List Call := l.calls.map (·.call)

namespace Moment

/-- The calls on thread states that a move makes: a taking goes to the interpreter when the thread
had no level, and a giving back when it has none left. -/
def due (t : ThreadId) (m : Moment) : List Call :=
  match m.move with
  | .take => if m.before.depth t = 0 ∧ m.after.depth t = 1 then [.ensure t .free] else []
  | .give => if m.before.depth t = 1 ∧ m.after.depth t = 0 then [.release t .free] else []
  | .suspend => [.save t]
  | .resume => [.restore t]
  | .closure => []

/-- Whether a thread has the levels, and what its outermost taking found, as it had before. -/
structure Restored (t : ThreadId) (m : Moment) : Prop where
  depth : m.after.depth t = m.before.depth t
  prior : (m.after.thread t).prior = (m.before.thread t).prior

/-- What a move does to the levels of a thread. -/
def Counted (t : ThreadId) (m : Moment) : Prop :=
  match m.move with
  | .take => m.after.depth t = m.before.depth t + 1
  | .give => m.after.depth t = m.before.depth t - 1
  | .suspend => 0 < m.before.depth t ∧ m.after.depth t = 0
  | .resume => 0 < m.after.depth t
  | .closure => 0 < m.before.depth t → m.Restored t

/-- What holds of a move of any program. -/
structure Tracked (t : ThreadId) (m : Moment) : Prop where
  before : m.before.isAcquired t = true ↔ m.before.holder = some t
  after : m.after.isAcquired t = true ↔ m.after.holder = some t
  counted : m.Counted t
  calls : m.move ≠ .closure → m.after.made = m.due t ++ m.before.made

end Moment

/-! ## Every move keeps the account -/

namespace Sound

theorem acquired (h : Sound t l) : l.isAcquired t = true ↔ l.holder = some t := by
  rw [h.holder, isAcquired, decide_eq_true_iff]
  split <;> simp <;> omega

/-- While the interpreter is alive the lock can be taken. -/
theorem takes (h : Sound t l) : ∃ k, l.tryAcquire t = .ok k := by
  simp only [tryAcquire, h.alive, if_true]
  split
  · exact ⟨_, rfl⟩
  · exact ⟨_, rfl⟩

theorem of_free (alive : l.alive = true) (depth : l.depth t = 0) (holder : l.holder = none)
    (prior : (l.thread t).prior = none) : Sound t l :=
  ⟨alive, by rw [if_pos depth, holder], by rw [if_pos depth, prior]⟩

theorem of_held (alive : l.alive = true) (depth : 0 < l.depth t) (holder : l.holder = some t)
    (prior : (l.thread t).prior = some .free) : Sound t l :=
  ⟨alive, by rw [if_neg (Nat.ne_of_gt depth), holder], by rw [if_neg (Nat.ne_of_gt depth), prior]⟩

end Sound

/-- Giving back to the interpreter changes nothing that the host keeps of a thread. -/
theorem prior_unensure (l : Lock) (t : ThreadId) (found : Prior) (u : ThreadId) :
    ((l.unensure t found).thread u).prior = (l.thread u).prior := by
  have same : ((l.setThread t { l.thread t with takings := (l.thread t).takings - 1 }).thread
      u).prior = (l.thread u).prior := by
    rw [thread_setThread]
    split
    · next hu => rw [hu]
    · rfl
  simp only [unensure]
  split
  · exact same
  · exact same

/-- A taking by a thread without levels goes to the interpreter, which finds the lock free; with
levels it is counted and no more. -/
theorem take_cases (h : Sound t l) (taken : l.tryAcquire t = .ok k) :
    Sound t k ∧ k.depth t = l.depth t + 1 ∧
      k.made = (if l.depth t = 0 then [.ensure t .free] else []) ++ l.made := by
  have alive : k.alive = true := by rw [Lock.alive, tryAcquire_interpreter taken]; exact h.alive
  have depth : k.depth t = l.depth t + 1 := by rw [tryAcquire_depth taken, if_pos rfl]
  simp only [tryAcquire, h.alive, if_true] at taken
  by_cases free : l.depth t = 0
  · have unheld : l.holder ≠ some t := by rw [h.holder, if_pos free]; rintro ⟨⟩
    simp only [free, if_true, ensure, unheld, if_false] at taken
    cases taken
    refine ⟨.of_held alive (by omega) rfl ?_, depth, ?_⟩
    · rw [thread_setThread, if_pos rfl]
    · rw [if_pos free]; rfl
  · rw [if_neg free] at taken
    cases taken
    refine ⟨.of_held alive (by omega) ?_ ?_, depth, ?_⟩
    · exact h.holder.trans (if_neg free)
    · rw [thread_setThread, if_pos rfl]
      exact h.prior.trans (if_neg free)
    · rw [if_neg free]; rfl

/-- A giving back of the last level goes to the interpreter, and frees the lock. -/
theorem give_cases (h : Sound t l) :
    Sound t (l.release t).2 ∧ (l.release t).2.depth t = l.depth t - 1 ∧
      (l.release t).2.made = (if l.depth t = 1 then [.release t .free] else []) ++ l.made := by
  have alive : (l.release t).2.alive = true := by
    rw [Lock.alive, release_interpreter]; exact h.alive
  have depth : (l.release t).2.depth t = l.depth t - 1 := by rw [release_depth, if_pos rfl]
  rcases Nat.lt_trichotomy (l.depth t) 1 with less | one | more
  · have none : (l.thread t).depth = 0 := by change l.depth t = 0; omega
    have same : (l.release t).2 = l := by simp only [release, none, if_true]
    rw [same, if_neg (by omega)]
    exact ⟨h, by omega, rfl⟩
  · have last : (l.thread t).depth = 1 := one
    have prior : (l.thread t).prior = some .free := h.prior.trans (if_neg (by omega))
    have alive' : ∀ r : Record, (l.setThread t r).alive = true := fun _ => h.alive
    have given : (l.release t).2 =
        (l.setThread t { l.thread t with depth := 0, prior := none }).unensure t .free := by
      simp only [release, last, prior, alive', if_true, Nat.lt_irrefl, if_false,
        Nat.one_ne_zero]
    refine ⟨.of_free alive (by omega) ?_ ?_, depth, ?_⟩
    · rw [given, unensure, if_pos (.inr rfl)]; rfl
    · rw [given, prior_unensure, thread_setThread, if_pos rfl]
    · rw [given, unensure, if_pos (.inr rfl), if_pos one]; rfl
  · have several : 1 < (l.thread t).depth := more
    have nonzero : (l.thread t).depth ≠ 0 := by omega
    have given : (l.release t).2 =
        l.setThread t { l.thread t with depth := (l.thread t).depth - 1 } := by
      simp only [release, nonzero, several, if_true, if_false]
    refine ⟨.of_held alive (by omega) ?_ ?_, depth, ?_⟩
    · rw [given]; exact h.holder.trans (if_neg (by omega))
    · rw [given, thread_setThread, if_pos rfl]; exact h.prior.trans (if_neg (by omega))
    · rw [given, if_neg (by omega)]; rfl

/-- A thread that has levels gives all of them up with the lock. -/
theorem suspend_cases {levels : Suspension} (h : Sound t l)
    (gives : (l.suspend t).1 = some levels) :
    Sound t (l.suspend t).2 ∧ 0 < l.depth t ∧ (l.suspend t).2.depth t = 0 ∧
      levels = ⟨l.depth t, some .free⟩ ∧ (l.suspend t).2.made = .save t :: l.made := by
  have alive : (l.suspend t).2.alive = true := by
    rw [Lock.alive, suspend_interpreter]; exact h.alive
  have some : (l.thread t).depth ≠ 0 := by
    intro none
    simp only [suspend, none, if_true] at gives
    cases gives
  have prior : (l.thread t).prior = Option.some .free := h.prior.trans (if_neg some)
  simp only [suspend, some, if_false] at gives alive ⊢
  cases gives
  refine ⟨.of_free alive ?_ rfl ?_, Nat.pos_of_ne_zero some, ?_, ?_, rfl⟩
  · rw [depth_record]
    exact (depth_setThread l t _ t).trans (if_pos rfl)
  · exact congrArg Record.prior ((thread_setThread l t _ t).trans (if_pos rfl))
  · rw [depth_record]
    exact (depth_setThread l t _ t).trans (if_pos rfl)
  · rw [prior]; rfl

/-- The levels that were given up are put back with the lock. -/
theorem resume_cases (alive : l.alive = true) {n : Nat} (some : 0 < n) :
    Sound t (l.resume t ⟨n, Option.some .free⟩) ∧ (l.resume t ⟨n, Option.some .free⟩).depth t = n ∧
      (l.resume t ⟨n, Option.some .free⟩).made = .restore t :: l.made := by
  have depth : (l.resume t ⟨n, Option.some .free⟩).depth t = n := by
    rw [resume, depth_setThread, if_pos rfl]
  refine ⟨.of_held alive (by omega) rfl ?_, depth, rfl⟩
  rw [resume, thread_setThread, if_pos rfl]

/-- In every program the account of a thread agrees with the lock before and after each move, the
interpreter is called where the first level begins and the last one ends, and the levels that a
closure gave up are there again after it. -/
theorem Course.tracked {moments : List Moment} (course : Course t l moments k) (h : Sound t l) :
    Sound t k ∧ ∀ m ∈ moments, m.Tracked t := by
  induction course with
  | stay l => exact ⟨h, nofun⟩
  | take taken =>
    obtain ⟨hk, depth, made⟩ := take_cases h taken
    refine ⟨hk, fun m hm => ?_⟩
    obtain rfl := List.mem_singleton.mp hm
    refine ⟨h.acquired, hk.acquired, depth, fun _ => made.trans ?_⟩
    congr 1
    simp only [Moment.due, depth]
    split <;> simp_all
  | give l =>
    obtain ⟨hk, depth, made⟩ := give_cases h
    refine ⟨hk, fun m hm => ?_⟩
    obtain rfl := List.mem_singleton.mp hm
    refine ⟨h.acquired, hk.acquired, depth, fun _ => made.trans ?_⟩
    congr 1
    simp only [Moment.due, depth]
    split <;> simp_all
  | append _ _ first rest =>
    obtain ⟨hk, tracked⟩ := first h
    obtain ⟨hj, others⟩ := rest hk
    exact ⟨hj, fun m hm => (List.mem_append.mp hm).elim (tracked m) (others m)⟩
  | closure free _ inside =>
    obtain ⟨hk, tracked⟩ := inside h
    refine ⟨hk, fun m hm => (List.mem_append.mp hm).elim (tracked m) fun hm => ?_⟩
    obtain rfl := List.mem_singleton.mp hm
    refine ⟨h.acquired, hk.acquired, fun some => ?_, fun other => absurd rfl other⟩
    exact absurd free (Nat.ne_of_gt some)
  | @suspended l k body levels gives _ inside =>
    obtain ⟨hs, some, none, rfl, saved⟩ := suspend_cases h gives
    obtain ⟨hk, tracked⟩ := inside hs
    obtain ⟨hr, depth, restored⟩ := resume_cases (t := t) hk.alive some
    refine ⟨hr, fun m hm => ?_⟩
    rw [List.cons_append, List.mem_cons, List.mem_append, List.mem_cons, List.mem_singleton] at hm
    rcases hm with rfl | hm | rfl | rfl
    · exact ⟨h.acquired, hs.acquired, ⟨some, none⟩, fun _ => saved⟩
    · exact tracked m hm
    · refine ⟨hk.acquired, hr.acquired, ?_, fun _ => restored⟩
      exact Nat.lt_of_lt_of_eq some depth.symm
    · refine ⟨h.acquired, hr.acquired, fun _ => ⟨depth, ?_⟩, fun other => absurd rfl other⟩
      rw [hr.prior, h.prior, depth]

/-! ## Closures that release what they acquired -/

/-- What calls have left open, latest first. Nothing if a call closed what was not the latest open
one, or gave back another state than that was opened with. -/
def openCalls : List Call → Option (List Call)
  | [] => some []
  | .ensure u found :: earlier => (openCalls earlier).map (.ensure u found :: ·)
  | .save u :: earlier => (openCalls earlier).map (.save u :: ·)
  | .release u found :: earlier =>
    match openCalls earlier with
    | some (c :: others) => if c = .ensure u found then some others else none
    | _ => none
  | .restore u :: earlier =>
    match openCalls earlier with
    | some (c :: others) => if c = .save u then some others else none
    | _ => none

/-- What the code that runs has to release. -/
inductive Charge where
  /-- code outside all closures releases what it likes -/
  | program
  /-- a closure, with the guards that it has acquired and not released, and those of the closures
  around it -/
  | closure (own around : List String)
  deriving DecidableEq

namespace Charge

/-- A guard is stored under a name. A live guard of a closure around may not be lost by it. -/
def acquire (name : String) : Charge → Option Charge
  | program => some program
  | closure own around =>
    if name ∈ around then none else some (closure (name :: own.erase name) around)

/-- The guard of a name is released. It may not be a live one of a closure around. -/
def release (name : String) : Charge → Option Charge
  | program => some program
  | closure own around => if name ∈ around then none else some (closure (own.erase name) around)

/-- The charge of a closure that begins. -/
def enter : Charge → Charge
  | program => closure [] []
  | closure own around => closure [] (own ++ around)

mutual

/-- The charge after an action. There is none if a closure ended with a guard that it had acquired
and not released, or released one that a closure around it had acquired. -/
def after (t : ThreadId) : Action → Table → Charge → Option Charge
  | .acquire name, _, c | .tryAcquire name, _, c => c.acquire name
  | .release name, _, c | .drop name, _, c => c.release name
  | .allowThreads actions, s, c =>
    if afterAll t actions { s with lock := (s.lock.suspend t).2 } c.enter = some c.enter then some c
    else none
  | .catchPanic a, s, c => after t a s c
  | .describe _, _, c | .isAcquired, _, c | .require, _, c | .evaluate, _, c | .sampleThread, _, c
  | .panic _, _, c => some c

/-- The charge after actions in order, up to one that unwinds. -/
def afterAll (t : ThreadId) : List Action → Table → Charge → Option Charge
  | [], _, c => some c
  | a :: rest, s, c =>
    match after t a s c, perform t a s with
    | none, _ => none
    | some c, (.unwound _, _) => some c
    | some c, (.answered _, s) => afterAll t rest { s with log := [] } c

end

/-- Whether a closure's guards, and those of the closures around, are live, and cover the levels of
the thread. -/
structure Covers (t : ThreadId) (s : Table) (own around : List String) : Prop where
  distinct : own.Nodup
  live : ∀ name ∈ own ++ around, s.guards.lookup (t, name) = some ⟨false⟩
  depth : s.lock.depth t ≤ own.length

/-- Whether a charge is as a table has it. -/
def Meets (t : ThreadId) (s : Table) : Charge → Prop
  | program => True
  | closure own around => Covers t s own around

end Charge

/-- Whether the calls on thread states are bracketed: around `base`, there is an open taking as long
as the thread has levels. -/
def Bracketed (t : ThreadId) (base : List Call) (l : Lock) : Prop :=
  openCalls l.made = some (if l.depth t = 0 then base else .ensure t .free :: base)

/-- What holds of a move of a program whose closures release what they acquired. -/
structure Moment.Balanced (t : ThreadId) (m : Moment) : Prop where
  bracketed : (openCalls m.after.made).isSome = true
  closure : m.move = .closure → m.Restored t ∧ openCalls m.after.made = openCalls m.before.made

theorem Bracketed.isSome {base : List Call} (h : Bracketed t base l) :
    (openCalls l.made).isSome = true := by
  rw [h, Option.isSome_some]

theorem Bracketed.take {base : List Call} (h : Sound t l) (b : Bracketed t base l)
    (taken : l.tryAcquire t = .ok k) : Bracketed t base k := by
  obtain ⟨-, depth, made⟩ := take_cases h taken
  rw [Bracketed, made, if_neg (show k.depth t ≠ 0 by omega)]
  rw [Bracketed] at b
  split
  · next free => rw [if_pos free] at b; simp [openCalls, b]
  · next free => rw [if_neg free] at b; simpa using b

theorem Bracketed.give {base : List Call} (h : Sound t l) (b : Bracketed t base l) :
    Bracketed t base (l.release t).2 := by
  obtain ⟨-, depth, made⟩ := give_cases h
  rw [Bracketed, made]
  rw [Bracketed] at b
  split
  · next one =>
    rw [if_neg (by omega)] at b
    rw [if_pos (by omega)]
    simp [openCalls, b]
  · next other =>
    have same : (l.release t).2.depth t = 0 ↔ l.depth t = 0 := by omega
    simpa [same] using b

/-- The account of a thread, the calls and the charge, inside calls that are open. -/
structure Frame (t : ThreadId) (base : List Call) (c : Charge) (s : Table) : Prop where
  sound : Sound t s.lock
  bracketed : Bracketed t base s.lock
  meets : c.Meets t s

theorem lookup_filter_of_ne {α β : Type} [BEq α] [LawfulBEq α] {a b : α} (h : b ≠ a)
    (xs : List (α × β)) : (xs.filter (·.1 != a)).lookup b = xs.lookup b := by
  induction xs with
  | nil => rfl
  | cons p rest ih =>
    obtain ⟨c, x⟩ := p
    cases hp : c == a with
    | true =>
      have other : (b == c) = false := beq_false_of_ne (eq_of_beq hp ▸ h)
      rw [List.filter_cons_of_neg (by simp [hp, bne]), ih, List.lookup_cons, other]
    | false => rw [List.filter_cons_of_pos (by simp [hp, bne]), List.lookup_cons, List.lookup_cons, ih]

@[simp] theorem releaseGuard_lock (s : Table) (t : ThreadId) (g : Guard) :
    (s.releaseGuard t g).2.lock = if g.released then s.lock else (s.lock.release t).2 := by
  simp only [Table.releaseGuard, Guard.release, Table.warn_lock]
  split <;> rfl

@[simp] theorem releaseGuard_guards (s : Table) (t : ThreadId) (g : Guard) :
    (s.releaseGuard t g).2.guards = s.guards := by
  simp only [Table.releaseGuard, Table.warn]
  split <;> rfl

/-- A guard that is stored takes the place of the older one of that name, which gives its level back
if it was live. -/
theorem storeGuard_cases (s : Table) (t : ThreadId) (name : String) (g : Guard) :
    (s.storeGuard t name g).guards = ((t, name), g) :: s.guards.filter (·.1 != (t, name)) ∧
    (s.guards.lookup (t, name) ≠ some ⟨false⟩ ∧ (s.storeGuard t name g).lock = s.lock ∨
      s.guards.lookup (t, name) = some ⟨false⟩ ∧
        (s.storeGuard t name g).lock = (s.lock.release t).2) := by
  simp only [Table.storeGuard]
  cases s.guards.lookup (t, name) with
  | none => exact ⟨rfl, .inl ⟨nofun, rfl⟩⟩
  | some older =>
    rw [releaseGuard_guards, releaseGuard_lock]
    obtain ⟨_ | _⟩ := older
    · exact ⟨rfl, .inr ⟨rfl, rfl⟩⟩
    · exact ⟨rfl, .inl ⟨nofun, rfl⟩⟩

/-- The guard of a name gives a level back if it is live. -/
theorem releaseGuard_gives (t : ThreadId) {s : Table} {name : String} {g : Guard}
    (found : s.guards.lookup (t, name) = some g) :
    (s.releaseGuard t g).2.lock = (s.lock.release t).2 ∨
      (s.releaseGuard t g).2.lock = s.lock ∧ s.guards.lookup (t, name) ≠ some ⟨false⟩ := by
  rw [releaseGuard_lock, found]
  obtain ⟨_ | _⟩ := g
  · exact .inl rfl
  · exact .inr ⟨rfl, nofun⟩

namespace Frame

variable {base : List Call} {c d : Charge} {s k : Table} {name : String}

/-- The charge asks for no more than the guards and the number of levels. -/
theorem of_level (h : Frame t base c s) (guards : k.guards = s.guards) (sound : Sound t k.lock)
    (bracketed : Bracketed t base k.lock) (same : k.lock.depth t = s.lock.depth t) :
    Frame t base c k := by
  refine ⟨sound, bracketed, ?_⟩
  cases c with
  | program => trivial
  | closure own around =>
    exact ⟨h.meets.distinct, guards ▸ h.meets.live, same ▸ h.meets.depth⟩

/-- Releasing the guard of a name leaves the other guards, and at most gives a level back if it was
live. -/
theorem release (h : Frame t base c s) (hd : c.release name = some d)
    (gives : k.lock = (s.lock.release t).2 ∨
      k.lock = s.lock ∧ s.guards.lookup (t, name) ≠ some ⟨false⟩)
    (others : ∀ n, n ≠ name → k.guards.lookup (t, n) = s.guards.lookup (t, n)) :
    Frame t base d k := by
  have sound : Sound t k.lock := by
    rcases gives with gives | ⟨same, -⟩
    · rw [gives]; exact (give_cases h.sound).1
    · rw [same]; exact h.sound
  have bracketed : Bracketed t base k.lock := by
    rcases gives with gives | ⟨same, -⟩
    · rw [gives]; exact h.bracketed.give h.sound
    · rw [same]; exact h.bracketed
  refine ⟨sound, bracketed, ?_⟩
  cases c with
  | program => cases hd; trivial
  | closure own around =>
    simp only [Charge.release, Option.ite_none_left_eq_some, Option.some.injEq] at hd
    obtain ⟨apart, rfl⟩ := hd
    obtain ⟨distinct, live, depth⟩ := h.meets
    refine ⟨distinct.erase name, fun n hn => ?_, ?_⟩
    · have ne : n ≠ name := by
        rintro rfl
        rcases List.mem_append.mp hn with hn | hn
        · exact absurd hn (distinct.not_mem_erase)
        · exact apart hn
      rw [others n ne]
      exact live n (List.mem_append.mpr ((List.mem_append.mp hn).imp List.mem_of_mem_erase id))
    · rcases gives with gives | ⟨same, gone⟩
      · have level := (give_cases h.sound).2.1
        have length := List.le_length_erase (a := name) (l := own)
        rw [gives, level]
        omega
      · have unknown : name ∉ own := fun hn => gone (live name (List.mem_append_left _ hn))
        rw [same, List.erase_of_not_mem unknown]
        exact depth

/-- A guard is stored for a level that was taken, and the older one of that name is released. -/
theorem acquire {l : Lock} (h : Frame t base c s) (hd : c.acquire name = some d)
    (taken : s.lock.tryAcquire t = .ok l) :
    Frame t base d (({ s with lock := l } : Table).storeGuard t name ⟨false⟩) := by
  obtain ⟨sound, level, -⟩ := take_cases h.sound taken
  have bracketed := h.bracketed.take h.sound taken
  obtain ⟨guards, stored⟩ := storeGuard_cases { s with lock := l } t name ⟨false⟩
  refine ⟨?_, ?_, ?_⟩
  · rcases stored with ⟨-, lock⟩ | ⟨-, lock⟩ <;> rw [lock]
    · exact sound
    · exact (give_cases sound).1
  · rcases stored with ⟨-, lock⟩ | ⟨-, lock⟩ <;> rw [lock]
    · exact bracketed
    · exact bracketed.give sound
  cases c with
  | program => cases hd; trivial
  | closure own around =>
    simp only [Charge.acquire, Option.ite_none_left_eq_some, Option.some.injEq] at hd
    obtain ⟨apart, rfl⟩ := hd
    obtain ⟨distinct, live, depth⟩ := h.meets
    refine ⟨List.nodup_cons.mpr ⟨distinct.not_mem_erase, distinct.erase name⟩, fun n hn => ?_, ?_⟩
    · rw [guards]
      by_cases hname : n = name
      · rw [hname, List.lookup_cons_self]
      · have ne : (t, n) ≠ (t, name) := fun h => hname (congrArg Prod.snd h)
        rw [List.lookup_cons, beq_false_of_ne ne, lookup_filter_of_ne ne]
        refine live n (List.mem_append.mpr ?_)
        simp only [List.cons_append, List.mem_cons, hname, false_or, List.mem_append] at hn
        exact hn.imp List.mem_of_mem_erase id
    · have length := List.le_length_erase (a := name) (l := own)
      rw [List.length_cons]
      rcases stored with ⟨gone, lock⟩ | ⟨-, lock⟩ <;> rw [lock]
      · have unknown : name ∉ own := fun hn => gone (live name (List.mem_append_left _ hn))
        rw [List.erase_of_not_mem unknown, level]
        omega
      · rw [(give_cases sound).2.1, level]
        omega

/-- A closure begins with no level and no guard of its own, inside the calls that are open then. -/
theorem enter (h : Frame t base c s) {levels : Suspension}
    (gives : (s.lock.suspend t).1 = some levels) :
    Frame t (.save t :: .ensure t .free :: base) c.enter
      { s with lock := (s.lock.suspend t).2 } := by
  obtain ⟨sound, some, none, -, saved⟩ := suspend_cases h.sound gives
  refine ⟨sound, ?_, ?_⟩
  · have before := h.bracketed
    rw [Bracketed, if_neg (Nat.ne_of_gt some)] at before
    rw [Bracketed, saved, if_pos none, openCalls, before]
    rfl
  · cases c with
    | program => exact ⟨.nil, nofun, Nat.le_of_eq none⟩
    | closure own around => exact ⟨.nil, h.meets.live, Nat.le_of_eq none⟩

/-- A closure without levels to give up begins with none. -/
theorem enter_free (h : Frame t base c s) (free : s.lock.depth t = 0) : Frame t base c.enter s := by
  refine ⟨h.sound, h.bracketed, ?_⟩
  cases c with
  | program => exact ⟨.nil, nofun, Nat.le_of_eq free⟩
  | closure own around => exact ⟨.nil, h.meets.live, Nat.le_of_eq free⟩

/-- A closure that ends with the charge that it began with has no level left. -/
theorem left (h : Frame t base c.enter s) : s.lock.depth t = 0 ∧ openCalls s.lock.made = some base := by
  have free : s.lock.depth t = 0 := by
    cases c with
    | program => exact Nat.le_zero.mp h.meets.depth
    | closure own around => exact Nat.le_zero.mp h.meets.depth
  exact ⟨free, h.bracketed.trans (congrArg some (if_pos free))⟩

/-- After a closure the guards of the code around it are live as they were, and cover as many
levels. -/
theorem leave {l : Lock} (h : Frame t base c s) (inside : c.enter.Meets t k)
    (sound : Sound t l) (bracketed : Bracketed t base l) (same : l.depth t = s.lock.depth t) :
    Frame t base c { k with lock := l } := by
  refine ⟨sound, bracketed, ?_⟩
  cases c with
  | program => trivial
  | closure own around => exact ⟨h.meets.distinct, inside.live, same ▸ h.meets.depth⟩

end Frame

theorem given_balanced {base : List Call} (h : Sound t l) (b : Bracketed t base l) (g : Guard) :
    ∀ m ∈ given t l g, m.Balanced t := by
  intro m hm
  simp only [given] at hm
  split at hm
  · cases hm
  · obtain rfl := List.mem_singleton.mp hm
    exact ⟨(b.give h).isSome, by rintro ⟨⟩⟩

theorem taken_balanced {base : List Call} (h : Sound t l) (b : Bracketed t base l)
    (older : Option Guard) : ∀ m ∈ taken t l older, m.Balanced t := by
  intro m hm
  simp only [taken] at hm
  split at hm
  · next k hk =>
    have hb := b.take h hk
    rcases List.mem_cons.mp hm with rfl | hm
    · exact ⟨hb.isSome, by rintro ⟨⟩⟩
    · cases older with
      | none => cases hm
      | some g => exact given_balanced (take_cases h hk).1 hb g m hm
  · cases hm

/-- The levels that a closure gave up are put back, among the calls that were open before it. -/
theorem Frame.resumed {base : List Call} {c : Charge} {s k : Table} {levels : Suspension}
    (h : Frame t base c s) (gives : (s.lock.suspend t).1 = some levels)
    (inside : Frame t (.save t :: .ensure t .free :: base) c.enter k) :
    Frame t base c { k with lock := k.lock.resume t levels } ∧
      Moment.Balanced t ⟨.resume, k.lock, k.lock.resume t levels⟩ ∧
      Moment.Balanced t ⟨.closure, s.lock, k.lock.resume t levels⟩ := by
  obtain ⟨-, some, -, rfl, -⟩ := suspend_cases h.sound gives
  obtain ⟨sound, depth, made⟩ := resume_cases (t := t) inside.sound.alive some
  have opens : openCalls (k.lock.resume t ⟨s.lock.depth t, Option.some .free⟩).made =
      Option.some (.ensure t .free :: base) := by
    rw [made, openCalls, inside.left.2]
    simp
  have before : openCalls s.lock.made = Option.some (.ensure t .free :: base) :=
    h.bracketed.trans (congrArg Option.some (if_neg (Nat.ne_of_gt some)))
  have bracketed : Bracketed t base (k.lock.resume t ⟨s.lock.depth t, Option.some .free⟩) := by
    rw [Bracketed, opens, depth, if_neg (Nat.ne_of_gt some)]
  refine ⟨h.leave inside.meets sound bracketed depth, ⟨bracketed.isSome, nofun⟩,
    bracketed.isSome, fun _ => ⟨⟨depth, ?_⟩, opens.trans before.symm⟩⟩
  rw [sound.prior, h.sound.prior, depth]

/-- A closure without levels to give up leaves none. -/
theorem Frame.ended {base : List Call} {c : Charge} {s k : Table} (h : Frame t base c s)
    (free : s.lock.depth t = 0) (inside : Frame t base c.enter k) :
    Frame t base c k ∧ Moment.Balanced t ⟨.closure, s.lock, k.lock⟩ := by
  obtain ⟨none, opens⟩ := inside.left
  have same : k.lock.depth t = s.lock.depth t := none.trans free.symm
  have before : openCalls s.lock.made = some base :=
    h.bracketed.trans (congrArg some (if_pos free))
  refine ⟨h.leave inside.meets inside.sound inside.bracketed same, inside.bracketed.isSome,
    fun _ => ⟨⟨same, ?_⟩, opens.trans before.symm⟩⟩
  rw [inside.sound.prior, h.sound.prior, same]

mutual

/-- An action keeps the account, the brackets and the charge. -/
theorem Frame.perform (t : ThreadId) : ∀ (a : Action) {base : List Call} {c d : Charge} {s : Table},
    Frame t base c s → c.after t a s = some d →
      Frame t base d (Lock.perform t a s).2 ∧ ∀ m ∈ moments t a s, m.Balanced t
  | .acquire name, base, c, d, s, h, hd => by
    obtain ⟨l, taken⟩ := h.sound.takes
    simp only [Lock.perform, taken]
    exact ⟨h.acquire hd taken, taken_balanced h.sound h.bracketed _⟩
  | .tryAcquire name, base, c, d, s, h, hd => by
    obtain ⟨l, taken⟩ := h.sound.takes
    simp only [Lock.perform, taken]
    exact ⟨h.acquire hd taken, taken_balanced h.sound h.bracketed _⟩
  | .release name, base, c, d, s, h, hd => by
    simp only [Lock.perform, moments]
    cases found : s.guards.lookup (t, name) with
    | none => exact ⟨h.release hd (.inr ⟨rfl, by simp [found]⟩) fun _ _ => rfl, nofun⟩
    | some g =>
      refine ⟨h.release hd (releaseGuard_gives t found) fun n hn => ?_,
        given_balanced h.sound h.bracketed g⟩
      have ne : (t, n) ≠ (t, name) := fun h => hn (congrArg Prod.snd h)
      rw [List.lookup_cons, beq_false_of_ne ne]
      exact (lookup_filter_of_ne ne _).trans (by rw [releaseGuard_guards])
  | .drop name, base, c, d, s, h, hd => by
    simp only [Lock.perform, moments]
    cases found : s.guards.lookup (t, name) with
    | none => exact ⟨h.release hd (.inr ⟨rfl, by simp [found]⟩) fun _ _ => rfl, nofun⟩
    | some g =>
      refine ⟨h.release hd (releaseGuard_gives t found) fun n hn => ?_,
        given_balanced h.sound h.bracketed g⟩
      have ne : (t, n) ≠ (t, name) := fun h => hn (congrArg Prod.snd h)
      exact (lookup_filter_of_ne ne _).trans (by rw [releaseGuard_guards])
  | .evaluate, base, c, d, s, h, hd => by
    cases hd
    obtain ⟨l, taken⟩ := h.sound.takes
    obtain ⟨sound, level, -⟩ := take_cases h.sound taken
    obtain ⟨given, back, -⟩ := give_cases sound
    simp only [Lock.perform, taken]
    refine ⟨h.of_level (releaseGuard_guards _ t _) ?_ ?_ ?_, taken_balanced h.sound h.bracketed _⟩ <;>
      rw [releaseGuard_lock]
    · exact given
    · exact (h.bracketed.take h.sound taken).give sound
    · exact back.trans (by rw [level, Nat.add_sub_cancel])
  | .allowThreads actions, base, c, d, s, h, hd => by
    simp only [Charge.after, Option.ite_none_right_eq_some, Option.some.injEq] at hd
    obtain ⟨ends, rfl⟩ := hd
    rw [perform_allowThreads, moments]
    cases gives : (s.lock.suspend t).1 with
    | none =>
      obtain ⟨free, same⟩ := suspend_none gives
      simp only [same] at ends ⊢
      obtain ⟨inside, body⟩ := Frame.performAll t actions (h.enter_free free) ends
      obtain ⟨left, closure⟩ := h.ended free inside
      refine ⟨left, fun m hm => (List.mem_append.mp hm).elim (body m) fun hm => ?_⟩
      obtain rfl := List.mem_singleton.mp hm
      exact closure
    | some levels =>
      obtain ⟨inside, body⟩ := Frame.performAll t actions (h.enter gives) ends
      obtain ⟨left, resume, closure⟩ := h.resumed gives inside
      refine ⟨left, fun m hm => ?_⟩
      simp only [List.cons_append, List.mem_cons, List.mem_append, List.not_mem_nil,
        or_false] at hm
      rcases hm with rfl | hm | rfl | rfl
      · exact ⟨(h.enter gives).bracketed.isSome, nofun⟩
      · exact body m hm
      · exact resume
      · exact closure
  | .catchPanic a, base, c, d, s, h, hd => by
    have whole := Frame.perform t a h hd
    simp only [Lock.perform]
    split <;> rename_i hr <;> rw [hr] at whole <;> exact whole
  | .describe name, base, c, d, s, h, hd => by
    cases hd
    simp only [Lock.perform]
    split <;> exact ⟨h, nofun⟩
  | .isAcquired, base, c, d, s, h, hd => by
    cases hd
    exact ⟨h, nofun⟩
  | .require, base, c, d, s, h, hd => by
    cases hd
    exact ⟨h, nofun⟩
  | .sampleThread, base, c, d, s, h, hd => by
    cases hd
    exact ⟨h, nofun⟩
  | .panic _, base, c, d, s, h, hd => by
    cases hd
    exact ⟨h, nofun⟩

/-- Actions in order keep the account, the brackets and the charge. -/
theorem Frame.performAll (t : ThreadId) :
    ∀ (actions : List Action) {base : List Call} {c d : Charge} {s : Table},
      Frame t base c s → c.afterAll t actions s = some d →
        Frame t base d (Lock.performAll t actions s).2 ∧ ∀ m ∈ momentsAll t actions s, m.Balanced t
  | [], base, c, d, s, h, hd => by
    cases hd
    exact ⟨h, nofun⟩
  | a :: rest, base, c, d, s, h, hd => by
    rw [momentsAll]
    rw [Charge.afterAll] at hd
    cases first : c.after t a s with
    | none =>
      rw [first] at hd
      cases hd
    | some e =>
      obtain ⟨frame, balanced⟩ := Frame.perform t a h first
      rw [first] at hd
      cases hr : Lock.perform t a s with
      | mk ending k =>
        rw [hr] at frame hd
        cases ending with
        | unwound text =>
          cases hd
          rw [performAll_unwound hr, List.append_nil]
          exact ⟨frame, balanced⟩
        | answered answer =>
          rw [performAll_answered hr]
          have cleared : Frame t base e { k with log := [] } :=
            frame.of_level rfl frame.sound frame.bracketed rfl
          obtain ⟨final, others⟩ := Frame.performAll t rest cleared hd
          exact ⟨final, fun m hm => (List.mem_append.mp hm).elim (balanced m) (others m)⟩

end

theorem Sound.start (t : ThreadId) : Sound t Table.start.lock := .of_free rfl rfl rfl rfl

/-- The closures of a program release, outside further closures, the guards that they acquire. -/
def Tidy (t : ThreadId) (actions : List Action) : Prop :=
  (Charge.program.afterAll t actions Table.start).isSome = true

instance (t : ThreadId) (actions : List Action) : Decidable (Tidy t actions) :=
  inferInstanceAs (Decidable (_ = true))

/-- In every program of a thread its account agrees with the lock before and after each move. The
lock is taken from the interpreter where the levels of guards begin, and given back, in the state
that it was taken in, where they end; the levels that a closure gave up are put back, however it
ends. If each closure releases by itself what it acquires, the calls on thread states are bracketed
all along, and every closure leaves the account of the thread and the open calls as they were. -/
theorem ownership_is_tracked (t : ThreadId) (actions : List Action) :
    let moments := momentsAll t actions Table.start
    Course t Table.start.lock moments (performAll t actions Table.start).2.lock ∧
    (∀ m ∈ moments, m.Tracked t) ∧
    (Tidy t actions → ∀ m ∈ moments, m.Balanced t) := by
  intro moments
  have course := momentsAll_course t actions Table.start
  refine ⟨course, (course.tracked (.start t)).2, fun tidy => ?_⟩
  obtain ⟨charge, ends⟩ := Option.isSome_iff_exists.mp tidy
  have frame : Frame t [] .program Table.start := ⟨.start t, rfl, trivial⟩
  exact (frame.performAll t actions ends).2

/-- A program with guards released out of turn, inside and outside closures, and a closure that
unwinds. -/
theorem ownership_is_tracked_out_of_turn :
    let actions : List Action := [.acquire "a", .allowThreads [.acquire "b",
      .allowThreads [.acquire "c", .drop "c"], .release "a", .drop "b"],
      .catchPanic (.allowThreads [.acquire "d", .release "d", .panic "late"]), .release "a"]
    Tidy 0 actions ∧ ∀ m ∈ momentsAll 0 actions Table.start, m.Balanced 0 := by
  intro actions
  have tidy : Tidy 0 actions := by decide
  exact ⟨tidy, (ownership_is_tracked 0 actions).2.2 tidy⟩

/-- A guard that is released inside a further closure counts as released, but its level is put back
with the others when that closure ends. The thread began without levels, and now it owns the lock
with no guard left. -/
theorem release_inside_closure_is_lost :
    let after := (performAll 0 [.allowThreads [.acquire "g", .allowThreads [.release "g"]]]
      Table.start).2
    after.guards = [((0, "g"), ⟨true⟩)] ∧ Table.start.lock.depth 0 = 0 ∧
      after.lock.depth 0 = 1 ∧ after.lock.holder = some 0 := by
  decide

end EmbeddedPython.Lock
