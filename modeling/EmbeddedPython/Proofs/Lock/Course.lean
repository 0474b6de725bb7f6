import EmbeddedPython.Lock.Script

/-
  What a program does to the lock, move by move

  A thread takes the lock for a guard, gives a level back, suspends its
  ownership and resumes it. `momentsAll` lists the moves of a program with the
  lock before and after each, those inside suspended closures among them, and
  `Course` says that the list is complete: nothing else happens to the lock.

  For every program the account of the thread agrees with the lock all along:
  `Course.tracked`.
-/

namespace EmbeddedPython.Lock

/-- What a thread does to the lock. -/
inductive Move where
  | take
  | give
  | suspend
  | resume
  /-- a whole closure that runs without the ownership, from its call to its end -/
  | closure
  deriving DecidableEq, Repr

/-- A move with the lock before and after it. -/
structure Moment where
  move : Move
  before : Lock
  after : Lock

/-- The move of releasing a guard. Releasing it again is none. -/
def given (t : ThreadId) (l : Lock) (g : Guard) : List Moment :=
  if g.released then [] else [⟨.give, l, (l.release t).2⟩]

/-- The moves of taking the lock, and of releasing another guard then. -/
def taken (t : ThreadId) (l : Lock) (older : Option Guard) : List Moment :=
  match l.tryAcquire t with
  | .ok k => ⟨.take, l, k⟩ :: older.elim [] (given t k)
  | .error _ => []

mutual

/-- The moves of an action. A closure stands after the moves inside it. -/
def moments (t : ThreadId) : Action → Table → List Moment
  | .acquire name, s | .tryAcquire name, s => taken t s.lock (s.guards.lookup (t, name))
  | .release name, s | .drop name, s => (s.guards.lookup (t, name)).elim [] (given t s.lock)
  | .evaluate, s => taken t s.lock (some ⟨false⟩)
  | .allowThreads actions, s =>
    let inside : Table := { s with lock := (s.lock.suspend t).2 }
    let body := momentsAll t actions inside
    let last := (performAll t actions inside).2.lock
    match (s.lock.suspend t).1 with
    | none => body ++ [⟨.closure, s.lock, last⟩]
    | some levels =>
      ⟨.suspend, s.lock, inside.lock⟩ :: body ++
        [⟨.resume, last, last.resume t levels⟩, ⟨.closure, s.lock, last.resume t levels⟩]
  | .catchPanic a, s => moments t a s
  | .describe _, _ | .isAcquired, _ | .require, _ | .sampleThread, _ | .panic _, _ => []

/-- The moves of actions in order, up to one that unwinds. -/
def momentsAll (t : ThreadId) : List Action → Table → List Moment
  | [], _ => []
  | a :: rest, s =>
    moments t a s ++
      match perform t a s with
      | (.unwound _, _) => []
      | (.answered _, s) => momentsAll t rest { s with log := [] }

end

/-- Moves that lead from one lock to another, with the moves of a closure between its suspension
and its end. -/
inductive Course (t : ThreadId) : Lock → List Moment → Lock → Prop where
  | stay (l : Lock) : Course t l [] l
  | take {l k : Lock} (taken : l.tryAcquire t = .ok k) : Course t l [⟨.take, l, k⟩] k
  | give (l : Lock) : Course t l [⟨.give, l, (l.release t).2⟩] (l.release t).2
  | append {l k j : Lock} {first rest : List Moment} (begins : Course t l first k)
      (ends : Course t k rest j) : Course t l (first ++ rest) j
  /-- a closure of a thread that has no levels to give up -/
  | closure {l k : Lock} {body : List Moment} (free : (l.thread t).depth = 0)
      (inside : Course t l body k) : Course t l (body ++ [⟨.closure, l, k⟩]) k
  | suspended {l k : Lock} {body : List Moment} {levels : Suspension}
      (gives : (l.suspend t).1 = some levels) (inside : Course t (l.suspend t).2 body k) :
      Course t l (⟨.suspend, l, (l.suspend t).2⟩ :: body ++
        [⟨.resume, k, k.resume t levels⟩, ⟨.closure, l, k.resume t levels⟩]) (k.resume t levels)

/-! ## The moves are complete -/

@[simp] theorem Table.warn_lock (s : Table) (warned : Bool) : (s.warn warned).lock = s.lock := by
  rw [Table.warn]
  split <;> rfl

theorem given_course (t : ThreadId) (s : Table) (g : Guard) :
    Course t s.lock (given t s.lock g) (s.releaseGuard t g).2.lock := by
  simp only [given, Table.releaseGuard, Guard.release, Table.warn_lock]
  split
  · exact .stay _
  · exact .give _

theorem storeGuard_course (t : ThreadId) (s : Table) (name : String) :
    Course t s.lock ((s.guards.lookup (t, name)).elim [] (given t s.lock))
      (s.storeGuard t name ⟨false⟩).lock := by
  simp only [Table.storeGuard]
  cases s.guards.lookup (t, name) with
  | none => exact .stay _
  | some g =>
    exact given_course t { s with
      guards := ((t, name), ⟨false⟩) :: s.guards.filter (·.1 != (t, name)) } g

theorem suspend_none {t : ThreadId} {l : Lock} (h : (l.suspend t).1 = none) :
    (l.thread t).depth = 0 ∧ (l.suspend t).2 = l := by
  revert h
  simp only [suspend]
  split
  · next free => exact fun _ => ⟨free, rfl⟩
  · rintro ⟨⟩

/-- A closure leaves what its actions leave, and the levels that were given up are put back. -/
theorem perform_allowThreads (t : ThreadId) (actions : List Action) (s : Table) :
    (perform t (.allowThreads actions) s).2 =
      let k := (performAll t actions { s with lock := (s.lock.suspend t).2 }).2
      match (s.lock.suspend t).1 with
      | none => k
      | some levels => { k with lock := k.lock.resume t levels } := by
  simp only [perform]
  cases (s.lock.suspend t).1 <;> simp only <;> split <;> rfl

theorem performAll_unwound {t : ThreadId} {a : Action} {s k : Table} {text : String}
    (h : perform t a s = (.unwound text, k)) (rest : List Action) :
    performAll t (a :: rest) s = (.unwound text, k) := by
  simp only [performAll, h]

theorem performAll_answered {t : ThreadId} {a : Action} {s k : Table} {answer : Answer}
    (h : perform t a s = (.answered answer, k)) (rest : List Action) :
    (performAll t (a :: rest) s).2 = (performAll t rest { k with log := [] }).2 := by
  simp only [performAll, h]
  split <;> rename_i hr <;> rw [hr]

mutual

/-- The moves of an action lead to what it makes of the lock. -/
theorem moments_course (t : ThreadId) :
    ∀ (a : Action) (s : Table), Course t s.lock (moments t a s) (perform t a s).2.lock
  | .acquire name, s => by
    simp only [moments, taken, perform]
    cases h : s.lock.tryAcquire t with
    | ok k => exact .append (.take h) (storeGuard_course t { s with lock := k } name)
    | error e => exact .stay _
  | .tryAcquire name, s => by
    simp only [moments, taken, perform]
    cases h : s.lock.tryAcquire t with
    | ok k => exact .append (.take h) (storeGuard_course t { s with lock := k } name)
    | error e => exact .stay _
  | .release name, s => by
    simp only [moments, perform]
    cases s.guards.lookup (t, name) with
    | none => exact .stay _
    | some g => exact given_course t s g
  | .drop name, s => by
    simp only [moments, perform]
    cases s.guards.lookup (t, name) with
    | none => exact .stay _
    | some g => exact given_course t s g
  | .evaluate, s => by
    simp only [moments, taken, perform]
    cases h : s.lock.tryAcquire t with
    | ok k => exact .append (.take h) (given_course t { s with lock := k } ⟨false⟩)
    | error e => exact .stay _
  | .allowThreads actions, s => by
    have inside := momentsAll_course t actions { s with lock := (s.lock.suspend t).2 }
    rw [perform_allowThreads, moments]
    cases h : (s.lock.suspend t).1 with
    | none =>
      obtain ⟨free, same⟩ := suspend_none h
      simp only [same] at inside ⊢
      exact .closure free inside
    | some levels => exact .suspended h inside
  | .catchPanic a, s => by
    have whole := moments_course t a s
    simp only [moments, perform]
    split <;> rename_i h <;> rw [h] at whole <;> exact whole
  | .describe name, s => by
    simp only [moments, perform]
    split <;> exact .stay _
  | .isAcquired, s => .stay _
  | .require, s => .stay _
  | .sampleThread, s => .stay _
  | .panic _, s => .stay _

/-- The moves of actions lead to what they make of the lock. -/
theorem momentsAll_course (t : ThreadId) :
    ∀ (actions : List Action) (s : Table),
      Course t s.lock (momentsAll t actions s) (performAll t actions s).2.lock
  | [], s => .stay _
  | a :: rest, s => by
    have first := moments_course t a s
    rw [momentsAll]
    cases h : perform t a s with
    | mk ending k =>
      rw [h] at first
      cases ending with
      | unwound text =>
        rw [performAll_unwound h, List.append_nil]
        exact first
      | answered answer =>
        rw [performAll_answered h]
        exact .append first (momentsAll_course t rest { k with log := [] })

end

end EmbeddedPython.Lock
