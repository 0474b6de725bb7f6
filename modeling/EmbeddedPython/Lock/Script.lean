import EmbeddedPython.Lock.Basic
import EmbeddedPython.Log

/-
  Scripts over the interpreter lock

  Threads acquire, release and suspend, with the guards kept by name on each
  thread. A panic unwinds to the nearest action that catches it and puts
  suspended levels back on its way.
-/

namespace EmbeddedPython.Lock

/-- An action of a thread. -/
inductive Action where
  | acquire (guard : String)
  | tryAcquire (guard : String)
  | release (guard : String)
  | drop (guard : String)
  | describe (guard : String)
  | isAcquired
  | require
  | evaluate
  | sampleThread
  | allowThreads (actions : List Action)
  | panic (text : String)
  | catchPanic (action : Action)

mutual
/-- What an action answers. -/
inductive Answer where
  | nothing
  | truth (b : Bool)
  | text (s : String)
  | outcome (result : Except Error Unit)
  | number (n : Int)
  | sample (acquired : Bool) (depth : Nat)
  | panicked (text : String)
  | reports (answers : List Report)
/-- An answer with the depth of the thread after the action and what was logged meanwhile. -/
inductive Report where
  | report (answer : Answer) (depth : Nat) (logged : List LogMessage)
end

/-- The lock, the named guards of each thread, and what was logged since the last report. -/
structure Table where
  lock : Lock
  guards : List ((ThreadId × String) × Guard)
  log : List LogMessage

/-- A process whose interpreter is initialized and whose lock is free. -/
def Table.start : Table := ⟨{ absent with interpreter := some 0 }, [], []⟩

namespace Table

def warn (s : Table) (warned : Bool) : Table :=
  if warned then { s with log := s.log ++ [.warning unbalancedWarning] } else s

/-- Releases a guard and logs what the lock warns of. -/
def releaseGuard (s : Table) (t : ThreadId) (g : Guard) : Guard × Table :=
  let (g, warned, lock) := g.release t s.lock
  (g, { s with lock := lock }.warn warned)

/-- Stores a new guard under a name and then drops the older one of that name. -/
def storeGuard (s : Table) (t : ThreadId) (name : String) (g : Guard) : Table :=
  let older := s.guards.lookup (t, name)
  let s := { s with guards := ((t, name), g) :: s.guards.filter (·.1 != (t, name)) }
  match older with
  | none => s
  | some old => (s.releaseGuard t old).2

end Table

/-- How an action ends: with an answer, or unwinding. -/
inductive Ending (α : Type) where
  | answered (a : α)
  | unwound (text : String)

mutual
/-- Performs an action of thread `t`. -/
def perform (t : ThreadId) : Action → Table → Ending Answer × Table
  | .acquire name, s =>
    match s.lock.tryAcquire t with
    | .ok lock => (.answered .nothing, { s with lock := lock }.storeGuard t name ⟨false⟩)
    | .error e => (.unwound (acquirePanic e), s)
  | .tryAcquire name, s =>
    match s.lock.tryAcquire t with
    | .ok lock => (.answered .nothing, { s with lock := lock }.storeGuard t name ⟨false⟩)
    | .error e => (.answered (.outcome (.error e)), s)
  | .release name, s =>
    match s.guards.lookup (t, name) with
    | none => (.answered .nothing, s)
    | some g =>
      let (g, s) := s.releaseGuard t g
      (.answered .nothing,
        { s with guards := ((t, name), g) :: s.guards.filter (·.1 != (t, name)) })
  | .drop name, s =>
    match s.guards.lookup (t, name) with
    | none => (.answered .nothing, s)
    | some g =>
      let (_, s) := s.releaseGuard t g
      (.answered .nothing, { s with guards := s.guards.filter (·.1 != (t, name)) })
  | .describe name, s =>
    match s.guards.lookup (t, name) with
    | none => (.answered .nothing, s)
    | some g => (.answered (.text (g.describe t s.lock)), s)
  | .isAcquired, s => (.answered (.truth (s.lock.isAcquired t)), s)
  | .require, s => (.answered (.outcome (s.lock.require t)), s)
  | .evaluate, s =>
    match s.lock.tryAcquire t with
    | .error e => (.unwound (acquirePanic e), s)
    | .ok lock =>
      let (_, s) := { s with lock := lock }.releaseGuard t ⟨false⟩
      (.answered (.number (6 + 36)), s)
  | .sampleThread, s => (.answered (.sample false 0), s)
  | .allowThreads actions, s =>
    let (suspension, lock) := s.lock.suspend t
    let (ending, s) := performAll t actions { s with lock := lock }
    let s := match suspension with
      | none => s
      | some levels => { s with lock := s.lock.resume t levels }
    match ending with
    | .answered reports => (.answered (.reports reports), s)
    | .unwound text => (.unwound text, s)
  | .panic text, s => (.unwound text, s)
  | .catchPanic a, s =>
    match perform t a s with
    | (.answered answer, s) => (.answered answer, s)
    | (.unwound text, s) => (.answered (.panicked text), s)
/-- Performs actions in order, each with a report of its own. -/
def performAll (t : ThreadId) : List Action → Table → Ending (List Report) × Table
  | [], s => (.answered [], s)
  | a :: rest, s =>
    match perform t a s with
    | (.unwound text, s) => (.unwound text, s)
    | (.answered answer, s) =>
      let report := Report.report answer (s.lock.depth t) s.log
      match performAll t rest { s with log := [] } with
      | (.unwound text, s) => (.unwound text, s)
      | (.answered reports, s) => (.answered (report :: reports), s)
end

/-- Performs actions of several threads, one at a time. An action that nobody catches the panic of
has no report. -/
def runScript (actions : List (ThreadId × Action)) : List (Ending Report) :=
  (actions.foldl (fun (acc : List (Ending Report) × Table) next =>
    let (t, a) := next
    let (ending, s) := perform t a acc.2
    let report := match ending with
      | .answered answer => .answered (.report answer (s.lock.depth t) s.log)
      | .unwound text => .unwound text
    (report :: acc.1, { s with log := [] })) ([], Table.start)).1.reverse

end EmbeddedPython.Lock
