import EmbeddedPython.Error

/-
  The interpreter lock

  One thread at a time runs interpreter code. The host counts the live guards
  of each thread and takes the lock with the outermost one; the interpreter
  keeps its own account of who holds the lock and how many takings of a thread
  are open. Both accounts are kept here side by side, with the calls the host
  makes on the interpreter's thread states, so that they can be compared.

  A thread may suspend its ownership around a wait. All its levels are given
  up and put back afterwards.
-/

namespace EmbeddedPython

/-- A thread of the host, by number. -/
abbrev ThreadId := Nat

namespace Lock

/-- What a taking of the lock found: whether the thread held the lock already. -/
inductive Prior where
  | held
  | free
  deriving DecidableEq, Repr, Inhabited

/-- A call that the host makes on a thread state. -/
inductive Call where
  | ensure (thread : ThreadId) (found : Prior)
  | release (thread : ThreadId) (found : Prior)
  | save (thread : ThreadId)
  | restore (thread : ThreadId)
  deriving DecidableEq, Repr, Inhabited

/-- A call with the interpreter that was initialized when it was made, if one was. -/
structure Made where
  call : Call
  interpreter : Option Nat
  deriving DecidableEq, Repr, Inhabited

/-- What is kept for a thread. -/
structure Record where
  /-- live guards, as the host counts them -/
  depth : Nat
  /-- what the taking by the outermost guard found -/
  prior : Option Prior
  /-- open takings, as the interpreter counts them -/
  takings : Nat
  deriving DecidableEq, Repr, Inhabited

/-- A thread that has never taken the lock. -/
def Record.fresh : Record := ⟨0, none, 0⟩

end Lock

/-- The lock with both accounts of it. -/
structure Lock where
  /-- the initialized interpreter, by number -/
  interpreter : Option Nat
  /-- the thread that the interpreter takes for the holder -/
  holder : Option ThreadId
  threads : List (ThreadId × Lock.Record)
  /-- the calls made on thread states, latest first -/
  calls : List Lock.Made
  deriving Repr

namespace Lock

/-- The lock of a process without an interpreter. -/
def absent : Lock := ⟨none, none, [], []⟩

instance : Inhabited Lock := ⟨absent⟩

def thread (l : Lock) (t : ThreadId) : Record := (l.threads.lookup t).getD Record.fresh

def setThread (l : Lock) (t : ThreadId) (r : Record) : Lock :=
  { l with threads := (t, r) :: l.threads.filter (·.1 != t) }

def alive (l : Lock) : Bool := l.interpreter.isSome

/-- The live guards of a thread. -/
def depth (l : Lock) (t : ThreadId) : Nat := (l.thread t).depth

/-- Whether the host takes the thread for the holder. -/
def isAcquired (l : Lock) (t : ThreadId) : Bool := 0 < l.depth t

def record (l : Lock) (c : Call) : Lock := { l with calls := ⟨c, l.interpreter⟩ :: l.calls }

/-- The interpreter's taking: a thread that holds the lock already keeps it. -/
def ensure (l : Lock) (t : ThreadId) : Prior × Lock :=
  let found := if l.holder = some t then Prior.held else Prior.free
  let r := l.thread t
  let l := { l with holder := some t }.setThread t { r with takings := r.takings + 1 }
  (found, l.record (.ensure t found))

/-- The interpreter's giving back: the lock is free again if the taking found it so, or if no
taking of the thread is open any more. -/
def unensure (l : Lock) (t : ThreadId) (found : Prior) : Lock :=
  let r := l.thread t
  let l := l.setThread t { r with takings := r.takings - 1 }
  let l := if r.takings ≤ 1 ∨ found = .free then { l with holder := none } else l
  l.record (.release t found)

/-- Takes the lock for one more guard of a thread. -/
def tryAcquire (l : Lock) (t : ThreadId) : Except Error Lock :=
  if l.depth t = 0 then
    if l.alive then
      let (found, l) := l.ensure t
      .ok (l.setThread t { l.thread t with depth := 1, prior := some found })
    else .error .notInitialized
  else .ok (l.setThread t { l.thread t with depth := l.depth t + 1 })

/-- The panic of a taking that cannot fail. -/
def acquirePanic (e : Error) : String := "cannot acquire the GIL: " ++ e.message

/-- The warning about a release without a guard. -/
def unbalancedWarning : String := "GIL released more times than it was acquired on this thread"

/-- Gives up one level of a thread. The warning is `true` when there was none. -/
def release (l : Lock) (t : ThreadId) : Bool × Lock :=
  let r := l.thread t
  if r.depth = 0 then (true, l)
  else if 1 < r.depth then (false, l.setThread t { r with depth := r.depth - 1 })
  else
    let l := l.setThread t { r with depth := 0, prior := none }
    match r.prior with
    | none => (false, l)
    | some found => (false, if l.alive then l.unensure t found else l)

/-- The levels that a thread gave up for a while. -/
structure Suspension where
  depth : Nat
  prior : Option Prior
  deriving DecidableEq, Repr, Inhabited

/-- Gives up all levels of a thread; nothing happens when there are none. -/
def suspend (l : Lock) (t : ThreadId) : Option Suspension × Lock :=
  let r := l.thread t
  if r.depth = 0 then (none, l)
  else
    let l := l.setThread t { r with depth := 0, prior := none }
    (some ⟨r.depth, r.prior⟩, { l with holder := none }.record (.save t))

/-- Puts the levels of a thread back, whatever happened to the interpreter meanwhile. -/
def resume (l : Lock) (t : ThreadId) (s : Suspension) : Lock :=
  let l := { l with holder := some t }.record (.restore t)
  l.setThread t { l.thread t with depth := s.depth, prior := s.prior }

/-! No call on a thread state initializes or finalizes an interpreter. -/

@[simp] theorem setThread_interpreter (l : Lock) (t : ThreadId) (r : Record) :
    (l.setThread t r).interpreter = l.interpreter := rfl

@[simp] theorem record_interpreter (l : Lock) (c : Call) :
    (l.record c).interpreter = l.interpreter := rfl

@[simp] theorem ensure_interpreter (l : Lock) (t : ThreadId) :
    (l.ensure t).2.interpreter = l.interpreter := rfl

@[simp] theorem unensure_interpreter (l : Lock) (t : ThreadId) (found : Prior) :
    (l.unensure t found).interpreter = l.interpreter := by
  simp only [unensure, record_interpreter]
  split <;> rfl

theorem tryAcquire_interpreter {l k : Lock} {t : ThreadId} (h : l.tryAcquire t = .ok k) :
    k.interpreter = l.interpreter := by
  simp only [tryAcquire] at h
  split at h
  · split at h
    · cases h
      simp
    · cases h
  · cases h
    simp

@[simp] theorem release_interpreter (l : Lock) (t : ThreadId) :
    (l.release t).2.interpreter = l.interpreter := by
  simp only [release]
  split
  · rfl
  · split
    · rfl
    · split
      · rfl
      · split <;> simp

@[simp] theorem suspend_interpreter (l : Lock) (t : ThreadId) :
    (l.suspend t).2.interpreter = l.interpreter := by
  simp only [suspend]
  split <;> simp

@[simp] theorem resume_interpreter (l : Lock) (t : ThreadId) (s : Suspension) :
    (l.resume t s).interpreter = l.interpreter := rfl

/-! A thread has a level for each of its live guards. -/

theorem thread_setThread (l : Lock) (t : ThreadId) (r : Record) (u : ThreadId) :
    (l.setThread t r).thread u = if u = t then r else l.thread u := by
  by_cases hu : u = t
  · simp [thread, setThread, hu]
  · have apart : (u == t) = false := beq_false_of_ne hu
    have kept : (l.threads.filter (·.1 != t)).lookup u = l.threads.lookup u := by
      induction l.threads with
      | nil => rfl
      | cons p rest ih =>
        by_cases hp : p.1 = t
        · have other : (u == p.1) = false := by rw [hp, apart]
          rw [List.filter_cons_of_neg (by simp [hp]), ih, List.lookup_cons, other]
        · rw [List.filter_cons_of_pos (by simp [hp]), List.lookup_cons, List.lookup_cons, ih]
    simp only [thread, setThread, List.lookup_cons, apart, kept, hu, if_false]

theorem depth_setThread (l : Lock) (t : ThreadId) (r : Record) (u : ThreadId) :
    (l.setThread t r).depth u = if u = t then r.depth else l.depth u := by
  rw [depth, thread_setThread]
  split <;> rfl

@[simp] theorem depth_record (l : Lock) (c : Call) (u : ThreadId) :
    (l.record c).depth u = l.depth u := rfl

/-- Taking the lock is one level more of the thread. -/
theorem tryAcquire_depth {l k : Lock} {t : ThreadId} (h : l.tryAcquire t = .ok k) (u : ThreadId) :
    k.depth u = if u = t then l.depth t + 1 else l.depth u := by
  simp only [tryAcquire] at h
  split at h
  · next free =>
    split at h
    · cases h
      simp only [depth_setThread, ensure, depth_record, free]
      split <;> rfl
    · cases h
  · cases h
    simp only [depth_setThread]

@[simp] theorem depth_unensure (l : Lock) (t : ThreadId) (found : Prior) (u : ThreadId) :
    (l.unensure t found).depth u = l.depth u := by
  have same : ((l.setThread t { l.thread t with takings := (l.thread t).takings - 1 }).depth u) =
      l.depth u := by
    rw [depth_setThread]
    split
    · next hu => rw [hu]; rfl
    · rfl
  simp only [unensure, depth_record]
  split
  · exact same
  · exact same

/-- Giving the lock back is one level less, if there is one. -/
theorem release_depth (l : Lock) (t u : ThreadId) :
    (l.release t).2.depth u = if u = t then l.depth t - 1 else l.depth u := by
  have level : l.depth t = (l.thread t).depth := rfl
  simp only [release]
  split
  · next none =>
    split
    · next hu => rw [hu, level, none]
    · rfl
  · split
    · rw [depth_setThread, level]
    · have last : (l.thread t).depth - 1 = 0 := by omega
      have given (l' : Lock) (found : Prior) :
          (if l'.alive then l'.unensure t found else l').depth u = l'.depth u := by
        split
        · exact depth_unensure l' t found u
        · rfl
      split
      · simp only [depth_setThread, level, last]
      · simp only [given, depth_setThread, level, last]

/-- Fails unless the thread owns the lock. -/
def require (l : Lock) (t : ThreadId) : Except Error Unit :=
  if l.isAcquired t then .ok () else .error .lockNotHeld

end Lock

/-- One level of ownership of a thread; released at most once. -/
structure Guard where
  released : Bool
  deriving DecidableEq, Repr, Inhabited

namespace Guard

/-- Releases a guard of thread `t`. A second release does nothing. -/
def release (g : Guard) (t : ThreadId) (l : Lock) : Guard × Bool × Lock :=
  if g.released then (g, false, l)
  else
    let (warned, l) := l.release t
    (⟨true⟩, warned, l)

def describe (g : Guard) (t : ThreadId) (l : Lock) : String :=
  Text.record "GilGuard" [("released", Text.ofBool g.released), ("depth", toString (l.depth t))]

end Guard

end EmbeddedPython
