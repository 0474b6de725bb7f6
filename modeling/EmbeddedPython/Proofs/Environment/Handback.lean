import EmbeddedPython.Environment.Basic

/-
  States are handed back to the interpreter that they are from

  A taking of the lock and a suspension of it both leave a state with the
  thread, which a release or a restoration hands back. A release looks whether
  an interpreter is initialized; a restoration does not. While a thread owns the
  lock no interpreter can be finalized, so that the states of guards are handed
  back to the right one; but the interpreter may be finalized inside a closure
  that levels were given up for, as when an environment is closed by a thread
  that owns the lock.

  Every state is handed back to the interpreter that it is from exactly if no
  such closure outlives its interpreter.
-/

namespace EmbeddedPython

namespace Lock

/-! ## The states that a thread has -/

namespace Call

def isSave : Call → Bool
  | save _ => true
  | _ => false

/-- Whether a call hands a state back. -/
def handsBack : Call → Bool
  | release _ _ | restore _ => true
  | _ => false

end Call

/-- The calls whose states have not been handed back, latest first. What a closure took and did not
hand back is lost where it ends. -/
def outstanding : List Made → List Made
  | [] => []
  | m :: earlier =>
    match m.call with
    | .ensure _ _ | .save _ => m :: outstanding earlier
    | .release _ _ => (outstanding earlier).tail
    | .restore _ => ((outstanding earlier).dropWhile (!·.call.isSave)).tail

/-- The interpreter that the state is from that a call hands back: a restoration that of the latest
suspension, a release that of the latest taking. -/
def origin (c : Call) (earlier : List Made) : Option Nat :=
  match c with
  | .restore _ => ((outstanding earlier).find? (·.call.isSave)).bind (·.interpreter)
  | _ => (outstanding earlier).head?.bind (·.interpreter)

/-- Whether all states have been handed back to the interpreter that they are from, while it was
initialized. The calls come latest first. -/
def Faithful : List Made → Prop
  | [] => True
  | m :: earlier => Faithful earlier ∧
    (m.call.handsBack = true → m.interpreter.isSome = true ∧ origin m.call earlier = m.interpreter)

/-- What was faithful has been so all along. -/
theorem Faithful.of_suffix {earlier calls : List Made} (h : Faithful calls)
    (suffix : earlier <:+ calls) : Faithful earlier := by
  obtain ⟨later, rfl⟩ := suffix
  induction later with
  | nil => exact h
  | cons m later ih => exact ih h.1

/-! ## Which calls are made -/

section Calls

variable {t : ThreadId} {l k : Lock}

theorem tryAcquire_calls (taken : l.tryAcquire t = .ok k) :
    k.calls = l.calls ∨ ∃ found, k.calls = ⟨.ensure t found, l.interpreter⟩ :: l.calls := by
  rw [tryAcquire] at taken
  split at taken
  · split at taken
    · cases taken
      exact .inr ⟨(l.ensure t).1, rfl⟩
    · cases taken
  · cases taken
    exact .inl rfl

/-- A release makes a call only while an interpreter is initialized. -/
theorem release_calls (l : Lock) (t : ThreadId) : (l.release t).2.calls = l.calls ∨
    l.alive = true ∧
      ∃ found, (l.release t).2.calls = ⟨.release t found, l.interpreter⟩ :: l.calls := by
  rw [release]
  split
  · exact .inl rfl
  · split
    · exact .inl rfl
    · split
      · exact .inl rfl
      · next found _ =>
        simp only
        split
        · next alive =>
          refine .inr ⟨alive, found, ?_⟩
          simp only [unensure]
          split <;> rfl
        · exact .inl rfl

theorem suspend_calls (l : Lock) (t : ThreadId) : (l.suspend t).2.calls = l.calls ∨
    (l.suspend t).2.calls = ⟨.save t, l.interpreter⟩ :: l.calls := by
  rw [suspend]
  split
  · exact .inl rfl
  · exact .inr rfl

end Calls

/-! ## Between suspensions -/

/-- What holds of a thread between two suspensions. Beyond the states from before it has one as long
as it has levels, which is that of its outermost guard, and from the initialized interpreter. -/
structure Level (t : ThreadId) (base : List Made) (l : Lock) : Prop where
  faithful : Faithful l.calls
  free : l.depth t = 0 → outstanding l.calls = base
  held : 0 < l.depth t → l.alive = true ∧ ∃ found, (l.thread t).prior = some found ∧
    outstanding l.calls = ⟨.ensure t found, l.interpreter⟩ :: base

namespace Level

variable {t : ThreadId} {base : List Made} {l k : Lock} {levels : Suspension}

theorem alive (h : Level t base l) (acquired : l.isAcquired t = true) : l.alive = true :=
  (h.held (decide_eq_true_iff.mp acquired)).1

/-- A free thread has its states from before, whatever becomes of the interpreter. -/
theorem of_free (h : Level t base l) (free : l.depth t = 0) (calls : k.calls = l.calls)
    (same : k.depth t = l.depth t) : Level t base k :=
  ⟨calls ▸ h.faithful, fun _ => calls ▸ h.free free, fun some => by omega⟩

theorem take (h : Level t base l) (taken : l.tryAcquire t = .ok k) : Level t base k := by
  have depth : k.depth t = l.depth t + 1 := by rw [tryAcquire_depth taken, if_pos rfl]
  have interpreter := tryAcquire_interpreter taken
  rw [tryAcquire] at taken
  split at taken
  · next free =>
    split at taken
    · next alive =>
      cases taken
      refine ⟨⟨h.faithful, fun back => by cases back⟩, fun none => by omega, fun _ => ⟨alive, (l.ensure t).1, ?_, ?_⟩⟩
      · exact congrArg Record.prior ((thread_setThread _ t _ t).trans (if_pos rfl))
      · show ⟨.ensure t (l.ensure t).1, l.interpreter⟩ :: outstanding l.calls = _
        rw [h.free free]
        rfl
    · cases taken
  · next some =>
    cases taken
    obtain ⟨alive, found, prior, states⟩ := h.held (Nat.pos_of_ne_zero some)
    refine ⟨h.faithful, fun none => by omega, fun _ => ⟨alive, found, ?_, states⟩⟩
    rw [thread_setThread, if_pos rfl]
    exact prior

/-- The last level of a thread is given back to the interpreter that it was taken from. -/
theorem give (h : Level t base l) : Level t base (l.release t).2 := by
  have depth : (l.release t).2.depth t = l.depth t - 1 := by rw [release_depth, if_pos rfl]
  rcases Nat.lt_trichotomy (l.depth t) 1 with less | one | more
  · have none : (l.thread t).depth = 0 := by change l.depth t = 0; omega
    have same : (l.release t).2 = l := by simp only [release, none, if_true]
    rwa [same]
  · obtain ⟨alive, found, prior, states⟩ := h.held (by omega)
    have last : (l.thread t).depth = 1 := one
    have calls : (l.release t).2.calls = ⟨.release t found, l.interpreter⟩ :: l.calls := by
      have alive' (r : Record) : (l.setThread t r).alive = true := alive
      simp only [release, last, prior, alive', if_true, Nat.lt_irrefl, if_false,
        Nat.one_ne_zero, unensure]
      split <;> rfl
    refine ⟨?_, fun _ => ?_, fun some => by omega⟩
    · rw [calls]
      refine ⟨h.faithful, fun _ => ⟨alive, ?_⟩⟩
      show (outstanding l.calls).head?.bind (·.interpreter) = _
      rw [states]
      rfl
    · rw [calls, outstanding, states]
      rfl
  · have several : 1 < (l.thread t).depth := more
    have nonzero : (l.thread t).depth ≠ 0 := by omega
    obtain ⟨alive, found, prior, states⟩ := h.held (by omega)
    have given : (l.release t).2 =
        l.setThread t { l.thread t with depth := (l.thread t).depth - 1 } := by
      simp only [release, nonzero, several, if_true, if_false]
    rw [given] at depth ⊢
    refine ⟨h.faithful, fun none => by omega, fun _ => ⟨alive, found, ?_, states⟩⟩
    rw [thread_setThread, if_pos rfl]
    exact prior

/-- A suspension leaves a state with the thread, and no level. -/
theorem suspend (h : Level t base l) (gives : (l.suspend t).1 = some levels) :
    Level t (⟨.save t, l.interpreter⟩ :: outstanding l.calls) (l.suspend t).2 := by
  have some : (l.thread t).depth ≠ 0 := by
    intro none
    simp only [Lock.suspend, none, if_true] at gives
    cases gives
  have none : (l.suspend t).2.depth t = 0 := by
    simp only [Lock.suspend, some, if_false]
    exact (depth_setThread l t _ t).trans (if_pos rfl)
  have calls : (l.suspend t).2.calls = ⟨.save t, l.interpreter⟩ :: l.calls := by
    simp only [Lock.suspend, some, if_false]
    rfl
  refine ⟨?_, fun _ => ?_, fun some => by omega⟩
  · rw [calls]
    exact ⟨h.faithful, fun back => by cases back⟩
  · rw [calls, outstanding]

/-- Between two suspensions the first state that a suspension left is that of the former one. -/
theorem saved (h : Level t (⟨.save t, l.interpreter⟩ :: base) k) :
    (outstanding k.calls).find? (·.call.isSave) = some ⟨.save t, l.interpreter⟩ ∧
      ((outstanding k.calls).dropWhile (!·.call.isSave)).tail = base := by
  rcases Nat.eq_zero_or_pos (k.depth t) with free | some
  · rw [h.free free]
    exact ⟨rfl, rfl⟩
  · obtain ⟨-, found, -, states⟩ := h.held some
    rw [states]
    exact ⟨rfl, rfl⟩

/-- Where a closure ends the state of its suspension is handed back to the interpreter that is
initialized then, if one is. -/
theorem resume (h : Level t base l) (gives : (l.suspend t).1 = some levels)
    (inside : Level t (⟨.save t, l.interpreter⟩ :: outstanding l.calls) k) :
    (Faithful (k.resume t levels).calls ↔ k.interpreter = l.interpreter) ∧
      (k.interpreter = l.interpreter → Level t base (k.resume t levels)) := by
  have some : 0 < l.depth t := by
    refine Nat.pos_of_ne_zero fun none => ?_
    have free : (l.thread t).depth = 0 := none
    simp only [Lock.suspend, free, if_true] at gives
    cases gives
  obtain ⟨alive, found, prior, states⟩ := h.held some
  obtain ⟨first, rest⟩ := inside.saved
  have given : levels = ⟨l.depth t, Option.some found⟩ := by
    have nonzero : (l.thread t).depth ≠ 0 := Nat.ne_of_gt some
    simp only [Lock.suspend, nonzero, if_false, prior] at gives
    exact (Option.some.inj gives).symm
  have calls : (k.resume t levels).calls = ⟨.restore t, k.interpreter⟩ :: k.calls := rfl
  have source : origin (.restore t) k.calls = l.interpreter := by
    rw [origin, first]
    rfl
  have faithful : Faithful (k.resume t levels).calls ↔ k.interpreter = l.interpreter := by
    rw [calls]
    constructor
    · intro h
      exact ((h.2 rfl).2.symm.trans source)
    · intro same
      exact ⟨inside.faithful, fun _ => ⟨by rw [same]; exact alive, source.trans same.symm⟩⟩
  refine ⟨faithful, fun same => ⟨faithful.mpr same, fun none => ?_, fun _ => ?_⟩⟩
  · rw [given, Lock.resume, depth_setThread, if_pos rfl] at none
    exact absurd none (Nat.ne_of_gt some)
  · refine ⟨by rw [Lock.alive, resume_interpreter, same]; exact alive, found, ?_, ?_⟩
    · rw [given, Lock.resume, thread_setThread, if_pos rfl]
    · rw [calls, outstanding, rest, states, resume_interpreter, same]

end Level

end Lock

/-! ## Programs during which interpreters begin and end -/

namespace Handback

/-- What a thread does with guards and closures, and what happens to the interpreter meanwhile. A
program that unwinds is one that is shorter. -/
inductive Deed where
  /-- the lock is taken for a guard, if there is an interpreter -/
  | take
  /-- the level of a guard is given back -/
  | give
  /-- a closure runs without the ownership -/
  | closure (body : List Deed)
  /-- an interpreter is initialized, unless there is one -/
  | start
  /-- the interpreter is finalized, if the lock can be had for it -/
  | finalize

/-- A process with another lock. -/
def setLock (p : Process) (l : Lock) : Process := { p with host := { p.host with lock := l } }

mutual

/-- What a deed makes of the process. -/
def perform (t : ThreadId) : Deed → Process → Process
  | .take, p =>
    match p.host.lock.tryAcquire t with
    | .ok l => setLock p l
    | .error _ => p
  | .give, p => setLock p (p.host.lock.release t).2
  | .closure body, p =>
    let ended := performAll t body (setLock p (p.host.lock.suspend t).2)
    match (p.host.lock.suspend t).1 with
    | none => ended
    | some levels => setLock ended (ended.host.lock.resume t levels)
  | .start, p => if p.host.lock.alive then p else p.beginInterpreter
  | .finalize, p =>
    if p.host.lock.alive ∧ p.host.lock.depth t = 0 then p.endInterpreter else p

/-- What deeds in order make of it. -/
def performAll (t : ThreadId) : List Deed → Process → Process
  | [], p => p
  | d :: rest, p => performAll t rest (perform t d p)

end

mutual

/-- The closures of a deed that levels are given up for: the process before the levels are given up,
and the one before they are put back. -/
def closures (t : ThreadId) : Deed → Process → List (Process × Process)
  | .closure body, p =>
    let inside := setLock p (p.host.lock.suspend t).2
    closuresAll t body inside ++
      match (p.host.lock.suspend t).1 with
      | none => []
      | some _ => [(p, performAll t body inside)]
  | .take, _ | .give, _ | .start, _ | .finalize, _ => []

/-- The closures of deeds in order. -/
def closuresAll (t : ThreadId) : List Deed → Process → List (Process × Process)
  | [], _ => []
  | d :: rest, p => closures t d p ++ closuresAll t rest (perform t d p)

end

mutual

/-- The states inside a deed. -/
def passed (t : ThreadId) : Deed → Process → List Process
  | .closure body, p => passedAll t body (setLock p (p.host.lock.suspend t).2)
  | .take, _ | .give, _ | .start, _ | .finalize, _ => []

/-- The states before, between, inside and after deeds. -/
def passedAll (t : ThreadId) : List Deed → Process → List Process
  | [], p => [p]
  | d :: rest, p => p :: passed t d p ++ passedAll t rest (perform t d p)

end

/-- Closing an environment finalizes the interpreter inside a closure of the thread that does. -/
theorem finalize_eq_closure {p : Process} (alive : p.host.lock.alive = true) (t : ThreadId) :
    p.finalize t = perform t (.closure [.finalize]) p := by
  have free : (setLock p (p.host.lock.suspend t).2).host.lock.alive = true ∧
      (setLock p (p.host.lock.suspend t).2).host.lock.depth t = 0 := by
    refine ⟨(congrArg Option.isSome (Lock.suspend_interpreter _ t)).trans alive, ?_⟩
    simp only [setLock, Lock.suspend]
    split
    · next none => exact none
    · exact (Lock.depth_setThread _ t _ t).trans (if_pos rfl)
  rw [perform, performAll, performAll, perform, if_pos free]
  rfl

variable {t : ThreadId}

/-! ## What every deed keeps -/

/-- What is kept by whatever happens to the lock and to the interpreter. -/
structure Keeps (t : ThreadId) (P : Process → Prop) : Prop where
  take : ∀ {p : Process} {l : Lock}, P p → p.host.lock.tryAcquire t = .ok l → P (setLock p l)
  give : ∀ {p : Process}, P p → P (setLock p (p.host.lock.release t).2)
  suspend : ∀ {p : Process}, P p → P (setLock p (p.host.lock.suspend t).2)
  resume : ∀ {p : Process} (levels : Lock.Suspension), P p →
    P (setLock p (p.host.lock.resume t levels))
  start : ∀ {p : Process}, P p → P p.beginInterpreter
  finalize : ∀ {p : Process}, P p → P p.endInterpreter

mutual

theorem Keeps.perform {P : Process → Prop} (keeps : Keeps t P) :
    ∀ (d : Deed) {p : Process}, P p → P (perform t d p)
  | .take, p, h => by
    rw [Handback.perform]
    split
    · next taken => exact keeps.take h taken
    · exact h
  | .give, p, h => keeps.give h
  | .closure body, p, h => by
    have ended := Keeps.performAll keeps body (keeps.suspend h)
    rw [Handback.perform]
    split
    · exact ended
    · exact keeps.resume _ ended
  | .start, p, h => by
    rw [Handback.perform]
    split
    · exact h
    · exact keeps.start h
  | .finalize, p, h => by
    rw [Handback.perform]
    split
    · exact keeps.finalize h
    · exact h

theorem Keeps.performAll {P : Process → Prop} (keeps : Keeps t P) :
    ∀ (deeds : List Deed) {p : Process}, P p → P (performAll t deeds p)
  | [], _, h => h
  | d :: rest, _, h => Keeps.performAll keeps rest (Keeps.perform keeps d h)

end

/-- No call that has been made is forgotten. -/
theorem keeps_calls (t : ThreadId) (calls : List Lock.Made) :
    Keeps t fun p => calls <:+ p.host.lock.calls where
  take h taken := by
    rcases Lock.tryAcquire_calls taken with same | ⟨found, more⟩
    · exact h.trans ⟨[], same.symm⟩
    · exact h.trans ⟨[_], more.symm⟩
  give {p} h := by
    rcases p.host.lock.release_calls t with same | ⟨-, found, more⟩
    · exact h.trans ⟨[], same.symm⟩
    · exact h.trans ⟨[_], more.symm⟩
  suspend {p} h := by
    rcases p.host.lock.suspend_calls t with same | more
    · exact h.trans ⟨[], same.symm⟩
    · exact h.trans ⟨[_], more.symm⟩
  resume _ h := h.trans ⟨[_], rfl⟩
  start h := h
  finalize h := h

/-- Whether a state is released only while an interpreter is initialized. -/
def Released (calls : List Lock.Made) : Prop :=
  ∀ m ∈ calls, ∀ u found, m.call = .release u found → m.interpreter.isSome = true

theorem Released.cons {calls : List Lock.Made} {m : Lock.Made} (h : Released calls)
    (other : ∀ u found, m.call = .release u found → m.interpreter.isSome = true) :
    Released (m :: calls) :=
  List.forall_mem_cons.mpr ⟨other, h⟩

theorem keeps_released (t : ThreadId) : Keeps t fun p => Released p.host.lock.calls where
  take {p l} h taken := by
    show Released l.calls
    rcases Lock.tryAcquire_calls taken with same | ⟨found, more⟩
    · rwa [same]
    · rw [more]
      exact h.cons nofun
  give {p} h := by
    show Released (p.host.lock.release t).2.calls
    rcases p.host.lock.release_calls t with same | ⟨alive, found, more⟩
    · rwa [same]
    · rw [more]
      exact h.cons fun _ _ _ => alive
  suspend {p} h := by
    show Released (p.host.lock.suspend t).2.calls
    rcases p.host.lock.suspend_calls t with same | more
    · rwa [same]
    · rw [more]
      exact h.cons nofun
  resume _ h := Released.cons h nofun
  start h := h
  finalize h := h

/-! ## Closures and their interpreters -/

/-- Whether closures end with the interpreter that they began with. -/
def Stay (closures : List (Process × Process)) : Prop :=
  ∀ c ∈ closures, c.2.host.lock.interpreter = c.1.host.lock.interpreter

theorem Stay.append {xs ys : List (Process × Process)} : Stay (xs ++ ys) ↔ Stay xs ∧ Stay ys :=
  List.forall_mem_append

/-- What holds after deeds, and of the states that are passed meanwhile, in which the thread takes
itself for the owner of the lock only while there is one. -/
structure Sane (t : ThreadId) (base : List Lock.Made) (p : Process) (passed : List Process) :
    Prop where
  level : Lock.Level t base p.host.lock
  alive : ∀ q ∈ passed, q.host.lock.isAcquired t = true → q.host.lock.alive = true

open Lock (Level Faithful)

/-- A deed without closures keeps the states that a thread has. -/
theorem plain {base : List Lock.Made} {p : Process} (level : Level t base p.host.lock) :
    (Faithful p.host.lock.calls ↔ Stay []) ∧ (Stay [] → Sane t base p []) :=
  ⟨iff_of_true level.faithful (List.forall_mem_nil _), fun _ => ⟨level, List.forall_mem_nil _⟩⟩

mutual

/-- A deed is faithful as long as the closures in it end with the interpreters that they began
with, and no longer. -/
theorem level_perform (t : ThreadId) : ∀ (d : Deed) {base : List Lock.Made} {p : Process},
    Level t base p.host.lock →
      (Faithful (perform t d p).host.lock.calls ↔ Stay (closures t d p)) ∧
        (Stay (closures t d p) → Sane t base (perform t d p) (passed t d p))
  | .take, base, p, h => by
    rw [perform, closures, passed]
    split
    · next taken => exact plain (h.take taken)
    · exact plain h
  | .give, base, p, h => by
    rw [perform, closures, passed]
    exact plain h.give
  | .start, base, p, h => by
    rw [perform, closures, passed]
    split
    · exact plain h
    · next absent =>
      have free : p.host.lock.depth t = 0 :=
        Nat.eq_zero_of_not_pos fun some => absent (h.held some).1
      exact plain (h.of_free free rfl rfl)
  | .finalize, base, p, h => by
    rw [perform, closures, passed]
    split
    · next ready => exact plain (h.of_free ready.2 rfl rfl)
    · exact plain h
  | .closure body, base, p, h => by
    rw [perform, closures, passed]
    cases gives : (p.host.lock.suspend t).1 with
    | none =>
      have same : (p.host.lock.suspend t).2 = p.host.lock := by
        revert gives
        simp only [Lock.suspend]
        split
        · exact fun _ => rfl
        · nofun
      rw [List.append_nil, same]
      exact level_performAll t body h
    | some levels =>
      obtain ⟨faithful, sane⟩ := level_performAll t body (p := setLock p (p.host.lock.suspend t).2)
        (h.suspend gives)
      generalize performAll t body (setLock p (p.host.lock.suspend t).2) = ended at faithful sane ⊢
      have last : Stay [(p, ended)] ↔ ended.host.lock.interpreter = p.host.lock.interpreter :=
        List.forall_mem_singleton
      rw [Stay.append, last]
      refine ⟨⟨fun all => ?_, ?_⟩, ?_⟩
      · have before : Faithful ended.host.lock.calls := Faithful.of_suffix all ⟨[_], rfl⟩
        have stay := faithful.mp before
        exact ⟨stay, (h.resume gives (sane stay).level).1.mp all⟩
      · rintro ⟨stay, same⟩
        exact (h.resume gives (sane stay).level).1.mpr same
      · rintro ⟨stay, same⟩
        exact ⟨(h.resume gives (sane stay).level).2 same, (sane stay).alive⟩

theorem level_performAll (t : ThreadId) : ∀ (deeds : List Deed) {base : List Lock.Made}
    {p : Process}, Level t base p.host.lock →
      (Faithful (performAll t deeds p).host.lock.calls ↔ Stay (closuresAll t deeds p)) ∧
        (Stay (closuresAll t deeds p) →
          Sane t base (performAll t deeds p) (passedAll t deeds p))
  | [], base, p, h =>
    ⟨iff_of_true h.faithful (List.forall_mem_nil _),
      fun _ => ⟨h, List.forall_mem_singleton.mpr h.alive⟩⟩
  | d :: rest, base, p, h => by
    obtain ⟨faithful, sane⟩ := level_perform t d h
    rw [performAll, closuresAll, passedAll, Stay.append]
    refine ⟨⟨fun all => ?_, ?_⟩, ?_⟩
    · have stay := faithful.mp (Faithful.of_suffix all
        ((keeps_calls t _).performAll rest (List.suffix_refl _)))
      exact ⟨stay, (level_performAll t rest (sane stay).level).1.mp all⟩
    · rintro ⟨first, others⟩
      exact (level_performAll t rest (sane first).level).1.mpr others
    · rintro ⟨first, others⟩
      have last := (level_performAll t rest (sane first).level).2 others
      refine ⟨last.level, fun q hq => ?_⟩
      rcases List.mem_append.mp hq with hq | hq
      · rcases List.mem_cons.mp hq with rfl | hq
        · exact h.alive
        · exact (sane first).alive q hq
      · exact last.alive q hq

end

theorem level_absent (t : ThreadId) : Level t [] Process.absent.host.lock :=
  ⟨trivial, fun _ => rfl, nofun⟩

/-- Where all states were handed back in time no thread is stranded. -/
theorem not_stranded {p : Process} (h : Faithful p.host.lock.calls) :
    p.stranded = false := by
  rw [Process.stranded]
  generalize p.host.lock.calls = calls at h
  induction calls with
  | nil => rfl
  | cons m earlier ih =>
    obtain ⟨call, interpreter⟩ := m
    rw [List.any_cons, ih h.1, Bool.or_false]
    cases call with
    | restore u => exact Option.isNone_eq_false_iff.mpr (h.2 rfl).1
    | _ => rfl

/-- All states are handed back to the interpreter that they are from, while it is initialized,
exactly if each closure that levels are given up for ends with the interpreter that it began with.
States of guards are handed back only while some interpreter is initialized. If closures end with
their interpreters, a thread takes itself for the owner of the lock only while there is one. -/
theorem handed_back_iff_stay (t : ThreadId) (deeds : List Deed) :
    let last := performAll t deeds Process.absent
    let closures := closuresAll t deeds Process.absent
    (Faithful last.host.lock.calls ↔
      ∀ c ∈ closures, c.2.host.lock.interpreter = c.1.host.lock.interpreter) ∧
    (∀ m ∈ last.host.lock.calls, ∀ u found, m.call = .release u found →
      m.interpreter.isSome = true) ∧
    ((∀ c ∈ closures, c.2.host.lock.interpreter = c.1.host.lock.interpreter) →
      last.stranded = false ∧ ∀ p ∈ passedAll t deeds Process.absent,
        p.host.lock.isAcquired t = true → p.host.lock.alive = true) := by
  intro last closures
  obtain ⟨faithful, sane⟩ := level_performAll t deeds (level_absent t)
  refine ⟨faithful, ?_, fun stay => ⟨not_stranded (faithful.mpr stay), (sane stay).alive⟩⟩
  exact (keeps_released t).performAll deeds (p := Process.absent) nofun

/-- A thread that owns the lock closes the environment: its state is put back where no interpreter
is initialized any more, and it takes itself for the owner of the lock. -/
theorem state_outlives_interpreter :
    let last := (performAll 0 [.start, .take] Process.absent).finalize 0
    ¬ Faithful last.host.lock.calls ∧ last.stranded = true ∧
      last.host.lock.calls.head? = some ⟨.restore 0, none⟩ ∧
      last.host.lock.alive = false ∧ last.host.lock.isAcquired 0 = true := by
  refine ⟨fun faithful => ?_, rfl, rfl, rfl, rfl⟩
  exact absurd (faithful.2 rfl).1 Bool.false_ne_true

end Handback

end EmbeddedPython
