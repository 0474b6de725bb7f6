import EmbeddedPython.Proofs.Bridge.Move
import Mathlib.Data.List.Perm.Basic
import Mathlib.Algebra.BigOperators.Group.List.Basic
import Mathlib.Algebra.Order.Ring.Nat

/-
  The ledger of a queue

  For each loop and each promise the journal balances: what was queued has been
  taken out or still waits, what was taken out has been accepted or rejected or
  is in hand, and what was accepted has been finished or is still tracked. A
  driver that has left leaves nothing behind.
-/

namespace EmbeddedPython

open Bridge

namespace Bridge

/-- Whether a promise is meant, as a number. -/
def isFor (i : PromiseId) (promise? : Option PromiseId) : Nat := if promise? = some i then 1 else 0

@[simp] theorem isFor_none (i : PromiseId) : isFor i none = 0 := rfl

@[simp] theorem Phase.promise?_draining : Phase.draining.promise? = none := rfl

namespace EventLoop

/-- How many requests with a promise wait in the queue of a loop. -/
def waiting (x : EventLoop) (i : PromiseId) : Nat :=
  (x.requests.map fun r => isFor i r.promise?).sum

/-- Whether the driver of a loop has the request with a promise in hand. -/
def inHand (x : EventLoop) (i : PromiseId) : Nat := isFor i x.driver.phase.promise?

/-- How many tasks with a promise the driver of a loop keeps track of. -/
def tracking (x : EventLoop) (i : PromiseId) : Nat :=
  (x.driver.tasks.map fun y => isFor i (some y.promise)).sum

end EventLoop

end Bridge

namespace Process

/-- The ledger of one loop. -/
structure LedgerAt (p : Process) (l : LoopId) : Prop where
  taken : ∀ i, p.occurrences .queued l i =
    p.occurrences .drained l i + p.occurrences .cleared l i + (p.loop l).waiting i
  decided : ∀ i, p.occurrences .drained l i + p.occurrences .cleared l i =
    p.occurrences .accepted l i + p.occurrences .rejected l i + (p.loop l).inHand i
  ended : ∀ i, p.occurrences .accepted l i = p.occurrences .finished l i + (p.loop l).tracking i
  /-- a driver that leaves has no tasks -/
  closing : (p.loop l).driver.phase = .closing → (p.loop l).driver.tasks = []
  /-- a driver that has left leaves an empty queue that takes nothing any more -/
  exited : (p.loop l).driver.phase = .exited →
    (p.loop l).driver.tasks = [] ∧ (p.loop l).requests = [] ∧ (p.loop l).notifier = none

/-- The ledgers of all loops. -/
def Ledger (p : Process) : Prop := ∀ l, p.LedgerAt l

/-- Taking an element off a list takes its share off the sum. -/
theorem sum_map_eraseIdx {α : Type} {xs : List α} {n : Nat} (h : n < xs.length) (f : α → Nat) :
    (xs.map f).sum = f xs[n] + ((xs.eraseIdx n).map f).sum := by
  rw [← List.sum_cons, ← List.map_cons]
  exact ((List.getElem_cons_eraseIdx_perm h).map f).symm.sum_eq

/-! ## Journals -/

theorem occurrences_log (p : Process) (e : Event) (l : LoopId) (i : PromiseId) (e' : Event)
    (i' : PromiseId) : (p.log e l i).occurrences e' l i' =
      p.occurrences e' l i' + if e = e' then isFor i' (some i) else 0 := by
  simp only [occurrences, log, List.count_cons, isFor]
  by_cases he : e = e' <;> simp [he]

theorem occurrences_log_of_ne (p : Process) (e : Event) {l k : LoopId} (h : k ≠ l) (i : PromiseId)
    (e' : Event) (i' : PromiseId) :
    (p.log e l i).occurrences e' k i' = p.occurrences e' k i' := by
  simp [occurrences, log, Ne.symm h]

/-- An entry of the journal counts for its own event, loop and promise. -/
theorem occurrences_log_other (p : Process) (e : Event) {l k : LoopId} {i j : PromiseId}
    (e' : Event) (h : ¬ (e' = e ∧ k = l ∧ j = i)) :
    (p.log e l i).occurrences e' k j = p.occurrences e' k j := by
  have hn : ¬ (e = e' ∧ l = k ∧ i = j) := fun x => h ⟨x.1.symm, x.2.1.symm, x.2.2.symm⟩
  simp [occurrences, log, hn]

theorem occurrences_record (p : Process) (e : Event) (l : LoopId) (r : Request) (e' : Event)
    (i : PromiseId) : (p.record e l r).occurrences e' l i =
      p.occurrences e' l i + if e = e' then isFor i r.promise? else 0 := by
  simp only [record]
  cases r.promise? with
  | none => simp [isFor]
  | some j => exact occurrences_log p e l j e' i

theorem occurrences_record_of_ne (p : Process) (e : Event) {l k : LoopId} (h : k ≠ l) (r : Request)
    (e' : Event) (i : PromiseId) :
    (p.record e l r).occurrences e' k i = p.occurrences e' k i := by
  simp only [record]
  cases r.promise? with
  | none => rfl
  | some j => exact occurrences_log_of_ne p e h j e' i

@[simp] theorem occurrences_changeLoop (p : Process) (l : LoopId)
    (f : Bridge.EventLoop → Bridge.EventLoop) :
    (p.changeLoop l f).occurrences = p.occurrences := rfl

@[simp] theorem occurrences_changePromise (p : Process) (i : PromiseId) (f : Promise → Promise) :
    (p.changePromise i f).occurrences = p.occurrences := rfl

@[simp] theorem occurrences_changeEnvironment (p : Process) (e : EnvironmentId)
    (f : Environment → Environment) : (p.changeEnvironment e f).occurrences = p.occurrences := rfl

@[simp] theorem occurrences_settle (p : Process) (i : PromiseId) (o : Bridge.Outcome) :
    (p.settle i o).occurrences = p.occurrences := rfl

@[simp] theorem occurrences_answer (p : Process) (r : Request) (e : Error) :
    (p.answer r e).occurrences = p.occurrences := by
  simp only [answer]
  split <;> rfl

@[simp] theorem log_loop (p : Process) (e : Event) (l : LoopId) (i : PromiseId) (k : LoopId) :
    (p.log e l i).loop k = p.loop k := rfl

@[simp] theorem changePromise_loop (p : Process) (i : PromiseId) (f : Promise → Promise)
    (k : LoopId) : (p.changePromise i f).loop k = p.loop k := rfl

@[simp] theorem changeEnvironment_loop (p : Process) (e : EnvironmentId)
    (f : Environment → Environment) (k : LoopId) : (p.changeEnvironment e f).loop k = p.loop k :=
  rfl

theorem LedgerAt.congr {p q : Process} {l : LoopId} (h : p.LedgerAt l)
    (loop : q.loop l = p.loop l) (journal : ∀ e i, q.occurrences e l i = p.occurrences e l i) :
    q.LedgerAt l where
  taken := by simpa only [loop, journal] using h.taken
  decided := by simpa only [loop, journal] using h.decided
  ended := by simpa only [loop, journal] using h.ended
  closing := by simpa only [loop] using h.closing
  exited := by simpa only [loop] using h.exited

/-! ## What each change does to the ledger -/

namespace Ledger

theorem idle {p q : Process} (hp : p.Ledger) (h : p.Idles q) : q.Ledger := fun l =>
  (hp l).congr (h.loop l) fun e i => by simp [occurrences, h.journal]

/-- A change to one loop has to be looked at there only. -/
theorem of_loop {p q : Process} (hp : p.Ledger) (l : LoopId)
    (others : ∀ k, k ≠ l →
      q.loop k = p.loop k ∧ ∀ e i, q.occurrences e k i = p.occurrences e k i)
    (here : q.LedgerAt l) : q.Ledger := by
  intro k
  by_cases hk : k = l
  · exact hk ▸ here
  · exact (hp k).congr (others k hk).1 (others k hk).2

theorem queue {p : Process} (hp : p.Ledger) {l : LoopId} (r : Request)
    (h : (p.loop l).notifier.isSome = true) : (p.queue l r).Ledger := by
  have hl : (p.queue l r).loop l = { p.loop l with requests := (p.loop l).requests ++ [r] } := by
    simp [Process.queue, loop_changeLoop_self (lt_size_of_notifier h)]
  have ho (e : Event) (i : PromiseId) : (p.queue l r).occurrences e l i =
      p.occurrences e l i + if .queued = e then isFor i r.promise? else 0 := by
    simp [Process.queue, occurrences_record]
  have hc := hp l
  refine hp.of_loop l (fun k hk => ⟨?_, fun e i => ?_⟩) ⟨fun i => ?_, fun i => ?_, fun i => ?_, ?_, ?_⟩
  · simp [Process.queue, loop_changeLoop_of_ne hk]
  · simp [Process.queue, occurrences_record_of_ne _ _ hk]
  · have := hc.taken i
    simp [hl, ho, EventLoop.waiting] at this ⊢
    omega
  · simpa [hl, ho, EventLoop.inHand] using hc.decided i
  · simpa [hl, ho, EventLoop.tracking] using hc.ended i
  · simpa [hl] using hc.closing
  · intro hx
    rw [hl] at hx
    rw [(hc.exited hx).2.2] at h
    cases h

theorem drain {p : Process} (hp : p.Ledger) {l : LoopId}
    (h : (p.loop l).driver.phase = .draining) : (p.drain l).Ledger := by
  cases hr : (p.loop l).requests with
  | nil =>
    have hq : p.drain l = p := by simp [Process.drain, hr]
    rw [hq]
    exact hp
  | cons r rest =>
    have hl := loop_drain hr
    have ho (e : Event) (i : PromiseId) : (p.drain l).occurrences e l i =
        p.occurrences e l i + if .drained = e then isFor i r.promise? else 0 := by
      simp [Process.drain, hr, occurrences_record]
    have hd : (afterDraining r).promise? = r.promise? := by cases r <;> rfl
    have hh : (p.loop l).driver.phase.promise? = none := by rw [h]; rfl
    have hc := hp l
    refine hp.of_loop l (fun k hk => ⟨?_, fun e i => ?_⟩)
      ⟨fun i => ?_, fun i => ?_, fun i => ?_, ?_, ?_⟩
    · simp [Process.drain, hr, loop_changeLoop_of_ne hk]
    · simp [Process.drain, hr, occurrences_record_of_ne _ _ hk]
    · have := hc.taken i
      simp [hl, ho, hr, EventLoop.waiting] at this ⊢
      omega
    · have := hc.decided i
      simp [hl, ho, hh, hd, EventLoop.inHand] at this ⊢
      omega
    · simpa [hl, ho, EventLoop.tracking] using hc.ended i
    · cases r <;> simp [hl, afterDraining]
    · cases r <;> simp [hl, afterDraining]

theorem clear {p : Process} (hp : p.Ledger) (l : LoopId) (e : Error) : (p.clear l e).Ledger := by
  cases hr : (p.loop l).requests with
  | nil =>
    have hq : p.clear l e = p := by simp [Process.clear, hr]
    rw [hq]
    exact hp
  | cons r rest =>
    have hl := loop_clear hr e
    have ho (e' : Event) (i : PromiseId) : (p.clear l e).occurrences e' l i =
        p.occurrences e' l i + (if .cleared = e' then isFor i r.promise? else 0)
          + if .rejected = e' then isFor i r.promise? else 0 := by
      simp [Process.clear, hr, occurrences_record]
    have hc := hp l
    refine hp.of_loop l (fun k hk => ⟨?_, fun e i => ?_⟩)
      ⟨fun i => ?_, fun i => ?_, fun i => ?_, ?_, ?_⟩
    · simp [Process.clear, hr, loop_changeLoop_of_ne hk]
    · simp [Process.clear, hr, occurrences_record_of_ne _ _ hk]
    · have := hc.taken i
      simp [hl, ho, hr, EventLoop.waiting] at this ⊢
      omega
    · have := hc.decided i
      simp [hl, ho, EventLoop.inHand] at this ⊢
      omega
    · simpa [hl, ho, EventLoop.tracking] using hc.ended i
    · simpa [hl] using hc.closing
    · intro hx
      rw [hl] at hx
      rw [(hc.exited hx).2.1] at hr
      cases hr

theorem reject {p : Process} (hp : p.Ledger) {l : LoopId} {i : PromiseId} (e : Error)
    (h : (p.loop l).driver.phase.promise? = some i) : (p.reject l i e).Ledger := by
  have hs : l < p.loops.size := lt_size_of_phase fun hx => by rw [hx] at h; cases h
  have hl : (p.reject l i e).loop l =
      { p.loop l with driver := { (p.loop l).driver with phase := .draining } } := by
    simp [Process.reject, loop_changeLoop_self hs]
  have ho (e' : Event) (j : PromiseId) : (p.reject l i e).occurrences e' l j =
      p.occurrences e' l j + if .rejected = e' then isFor j (some i) else 0 := by
    simp [Process.reject, occurrences_log]
  have hc := hp l
  refine hp.of_loop l (fun k hk => ⟨?_, fun e j => ?_⟩) ⟨fun j => ?_, fun j => ?_, fun j => ?_, ?_, ?_⟩
  · simp [Process.reject, loop_changeLoop_of_ne hk]
  · simp [Process.reject, occurrences_log_of_ne _ _ hk]
  · simpa [hl, ho, EventLoop.waiting] using hc.taken j
  · have := hc.decided j
    simp [hl, ho, h, EventLoop.inHand] at this ⊢
    omega
  · simpa [hl, ho, EventLoop.tracking] using hc.ended j
  · simp [hl]
  · simp [hl]

theorem accept {p : Process} (hp : p.Ledger) {l : LoopId} {x : Tracked}
    (h : (p.loop l).driver.phase.promise? = some x.promise) : (p.accept l x).Ledger := by
  have hs : l < p.loops.size := lt_size_of_phase fun hx => by rw [hx] at h; cases h
  have hl : (p.accept l x).loop l = { p.loop l with driver := { (p.loop l).driver with
      tasks := (p.loop l).driver.tasks ++ [x], phase := .draining } } := by
    simp [Process.accept, loop_changeLoop_self hs]
  have ho (e : Event) (j : PromiseId) : (p.accept l x).occurrences e l j =
      p.occurrences e l j + if .accepted = e then isFor j (some x.promise) else 0 := by
    simp [Process.accept, occurrences_log]
  have hc := hp l
  refine hp.of_loop l (fun k hk => ⟨?_, fun e j => ?_⟩) ⟨fun j => ?_, fun j => ?_, fun j => ?_, ?_, ?_⟩
  · simp [Process.accept, loop_changeLoop_of_ne hk]
  · simp [Process.accept, occurrences_log_of_ne _ _ hk]
  · simpa [hl, ho, EventLoop.waiting] using hc.taken j
  · have := hc.decided j
    simp [hl, ho, h, EventLoop.inHand] at this ⊢
    omega
  · have := hc.ended j
    simp [hl, ho, EventLoop.tracking] at this ⊢
    omega
  · simp [hl]
  · simp [hl]

theorem finish {p : Process} (hp : p.Ledger) (l : LoopId) (n : Nat) (o : Bridge.Outcome) :
    (p.finish l n o).Ledger := by
  by_cases hn : n < (p.loop l).driver.tasks.length
  · have hx := List.getElem?_eq_getElem hn
    have hl := loop_finish hn o
    have ho (e : Event) (j : PromiseId) : (p.finish l n o).occurrences e l j =
        p.occurrences e l j +
          if .finished = e then isFor j (some (p.loop l).driver.tasks[n].promise) else 0 := by
      simp [Process.finish, hx, occurrences_log]
    have hc := hp l
    refine hp.of_loop l (fun k hk => ⟨?_, fun e j => ?_⟩)
      ⟨fun j => ?_, fun j => ?_, fun j => ?_, ?_, ?_⟩
    · simp [Process.finish, hx, loop_changeLoop_of_ne hk]
    · simp [Process.finish, hx, occurrences_log_of_ne _ _ hk]
    · simpa [hl, ho, EventLoop.waiting] using hc.taken j
    · simpa [hl, ho, EventLoop.inHand] using hc.decided j
    · have := hc.ended j
      rw [EventLoop.tracking, sum_map_eraseIdx hn] at this
      simp [hl, ho, EventLoop.tracking] at this ⊢
      omega
    · intro hx
      rw [hl] at hx
      rw [hc.closing hx] at hn
      exact absurd hn (Nat.not_lt_zero n)
    · intro hx
      rw [hl] at hx
      rw [(hc.exited hx).1] at hn
      exact absurd hn (Nat.not_lt_zero n)
  · have hq : p.finish l n o = p := by
      simp [Process.finish, List.getElem?_eq_none (Nat.not_lt.mp hn)]
    rw [hq]
    exact hp

/-- A change to a loop that moves no request. -/
theorem changeLoop {p : Process} (hp : p.Ledger) (l : LoopId)
    (f : Bridge.EventLoop → Bridge.EventLoop)
    (requests : (f (p.loop l)).requests = (p.loop l).requests)
    (hand : (f (p.loop l)).driver.phase.promise? = (p.loop l).driver.phase.promise?)
    (tasks : (f (p.loop l)).driver.tasks.map (·.promise) =
      (p.loop l).driver.tasks.map (·.promise))
    (closing : (f (p.loop l)).driver.phase = .closing →
      (p.loop l).driver.phase = .closing ∨ (p.loop l).driver.tasks = [])
    (exited : (f (p.loop l)).driver.phase = .exited → (p.loop l).driver.phase = .exited ∧
      ((p.loop l).notifier = none → (f (p.loop l)).notifier = none)) :
    (p.changeLoop l f).Ledger := by
  by_cases hs : l < p.loops.size
  · have hl := loop_changeLoop_self hs f
    have hc := hp l
    have ht : (f (p.loop l)).driver.tasks = [] ↔ (p.loop l).driver.tasks = [] := by
      rw [← List.map_eq_nil_iff (f := (·.promise)), tasks, List.map_eq_nil_iff]
    have hi (j : PromiseId) : (f (p.loop l)).tracking j = (p.loop l).tracking j := by
      have := congrArg (fun xs => (xs.map fun i => isFor j (some i)).sum) tasks
      simpa [EventLoop.tracking, Function.comp_def] using this
    refine hp.of_loop l (fun k hk => ⟨loop_changeLoop_of_ne hk f, fun _ _ => rfl⟩)
      ⟨fun j => ?_, fun j => ?_, fun j => ?_, ?_, ?_⟩
    · simpa [hl, EventLoop.waiting, requests] using hc.taken j
    · simpa [hl, EventLoop.inHand, hand] using hc.decided j
    · simpa [hl, hi] using hc.ended j
    · intro hx
      rw [hl] at hx ⊢
      rcases closing hx with h | h
      · exact ht.mpr (hc.closing h)
      · exact ht.mpr h
    · intro hx
      rw [hl] at hx ⊢
      obtain ⟨h, hn⟩ := exited hx
      have he := hc.exited h
      exact ⟨ht.mpr he.1, requests ▸ he.2.1, hn he.2.2⟩
  · refine hp.of_loop l (fun k hk => ⟨loop_changeLoop_of_ne hk f, fun _ _ => rfl⟩) ?_
    exact (hp l).congr (by simp [loop_changeLoop, hs]) fun _ _ => rfl

theorem addLoop {p : Process} (hp : p.Ledger) {x : Bridge.EventLoop} (requests : x.requests = [])
    (tasks : x.driver.tasks = []) (phase : x.driver.phase = .entering) : (p.addLoop x).Ledger := by
  have hl : (p.addLoop x).loop p.loops.size = x := by simp [loop_addLoop]
  have hd : p.loop p.loops.size = default := loop_of_size_le (Nat.le_refl _)
  have hc := hp p.loops.size
  have ho : (p.addLoop x).occurrences = p.occurrences := rfl
  refine hp.of_loop p.loops.size (fun k hk => ⟨by simp [loop_addLoop, hk], fun _ _ => rfl⟩)
    ⟨fun j => ?_, fun j => ?_, fun j => ?_, ?_, ?_⟩
  · have hw : (default : Bridge.EventLoop).waiting j = x.waiting j := by
      simp [EventLoop.waiting, requests]
      rfl
    simpa [hl, ho, hd, hw] using hc.taken j
  · have hw : (default : Bridge.EventLoop).inHand j = x.inHand j := by
      simp [EventLoop.inHand, phase]
      rfl
    simpa [hl, ho, hd, hw] using hc.decided j
  · have hw : (default : Bridge.EventLoop).tracking j = x.tracking j := by
      simp [EventLoop.tracking, tasks]
      rfl
    simpa [hl, ho, hd, hw] using hc.ended j
  · rw [hl]
    exact fun _ => tasks
  · rw [hl, phase]
    exact fun h => Bridge.Phase.noConfusion h

theorem exit {p : Process} (hp : p.Ledger) {l : LoopId}
    (phase : (p.loop l).driver.phase = .closing) (notifier : (p.loop l).notifier = none)
    (requests : (p.loop l).requests = []) : (p.exit l).Ledger := by
  have hs : l < p.loops.size := lt_size_of_phase (by rw [phase]; exact Bridge.Phase.noConfusion)
  have hl : (p.exit l).loop l =
      { p.loop l with driver := { (p.loop l).driver with phase := .exited } } := by
    simp [Process.exit, loop_changeLoop_self hs]
  have hc := hp l
  have ho : (p.exit l).occurrences = p.occurrences := rfl
  refine hp.of_loop l (fun k hk => ⟨by simp [Process.exit, loop_changeLoop_of_ne hk], fun _ _ => rfl⟩)
    ⟨fun j => ?_, fun j => ?_, fun j => ?_, ?_, ?_⟩
  · simpa [hl, ho, EventLoop.waiting] using hc.taken j
  · have := hc.decided j
    simpa [hl, ho, EventLoop.inHand, phase, Bridge.Phase.promise?] using this
  · simpa [hl, ho, EventLoop.tracking] using hc.ended j
  · simp [hl]
  · rw [hl]
    exact fun _ => ⟨hc.closing phase, requests, notifier⟩

/-- A change that no loop takes part in. -/
theorem same {p q : Process} (hp : p.Ledger) (loops : ∀ l, q.loop l = p.loop l)
    (journal : q.journal = p.journal) : q.Ledger := fun l =>
  (hp l).congr (loops l) fun e i => by simp [occurrences, journal]

end Ledger

@[simp] theorem changePythonLoop_journal (p : Process) (l : LoopId) (f : Loop → Loop) :
    (p.changePythonLoop l f).journal = p.journal := by
  simp only [changePythonLoop]
  split <;> rfl

/-- Every change keeps the ledgers balanced. -/
theorem Change.ledger {p q : Process} (h : p.Change q) (hp : p.Ledger) : q.Ledger := by
  cases h with
  | idle h => exact hp.idle h
  | python l f => exact hp.same (fun k => by simp) (by simp)
  | queue l r isOpen _ => exact hp.queue r isOpen
  | drain l h => exact hp.drain h
  | clear l e => exact hp.clear l e
  | shut l h =>
    exact hp.changeLoop l _ rfl rfl rfl (fun hx => .inl hx) fun hx => ⟨hx, fun _ => rfl⟩
  | reject l i e h => exact hp.reject e h
  | accept l x h => exact hp.accept h
  | finish l n o => exact hp.finish l n o
  | move l phase same before live idle =>
    exact hp.changeLoop l _ rfl same rfl (fun hx => .inr (idle hx)) fun hx => absurd hx live
  | stopping l => exact hp.changeLoop l _ rfl rfl rfl .inl fun hx => ⟨hx, id⟩
  | retask l f h =>
    exact hp.changeLoop l _ rfl rfl (by simp [h]) .inl fun hx => ⟨hx, id⟩
  | owners l f h =>
    obtain ⟨-, hr, hn, hd⟩ := h (p.loop l)
    refine hp.changeLoop l f hr (by rw [hd]) (by rw [hd]) (fun hx => .inl (hd ▸ hx)) fun hx => ?_
    exact ⟨hd ▸ hx, fun h => hn.trans h⟩
  | addLoop x _ requests _ tasks phase => exact hp.addLoop requests tasks phase
  | exit l phase notifier requests => exact hp.exit phase notifier requests
  | abandon i => exact hp.same (fun _ => rfl) rfl
  | defaultLoop e l => exact hp.same (fun _ => rfl) rfl

theorem Turns.ledger {p q : Process} (h : p.Turns q) (hp : p.Ledger) : q.Ledger :=
  h.keeps (fun _ _ => Change.ledger) hp

end Process

end EmbeddedPython
