import EmbeddedPython.Proofs.Bridge.Ledger

/-
  The two stages of a promise

  A request with a promise is queued at most once, on one loop. From then on
  the stage of the promise is what the journal of that loop says: submitted
  until the request is accepted or rejected, accepted until the task is
  finished, and settled afterwards. Requests that are still to be queued are
  counted by `pending`.
-/

namespace EmbeddedPython

open Bridge

/-- Whether a stage is the one that follows from what has happened to a request. -/
def Bridge.Stage.Agrees (accepts rejects finishes : Nat) : Bridge.Stage → Prop
  | .submitted => accepts = 0 ∧ rejects = 0 ∧ finishes = 0
  | .accepted => accepts = 1 ∧ rejects = 0 ∧ finishes = 0
  | .settled _ => rejects + finishes = 1 ∧ accepts = finishes

namespace Process

/-- Whether the stage of a promise is the one that the journal of a loop says. -/
def Agrees (p : Process) (l : LoopId) (i : PromiseId) : Prop :=
  (p.promise i).stage.Agrees (p.occurrences .accepted l i) (p.occurrences .rejected l i)
    (p.occurrences .finished l i)

/-- How many times a request with a promise has been queued, on whatever loop. -/
def queuings (p : Process) (i : PromiseId) : Nat :=
  p.journal.countP fun x => x.event == .queued && x.promise == i

/-- The promises of a process, with the number of requests that are still to be queued. -/
structure Tickets (pending : PromiseId → Nat) (p : Process) : Prop where
  once : ∀ i, pending i + p.queuings i ≤ 1
  made : ∀ i, p.promises.size ≤ i → pending i + p.queuings i = 0
  waiting : ∀ i, 0 < pending i → (p.promise i).stage.Agrees 0 0 0
  agrees : ∀ l i, 0 < p.occurrences .queued l i → p.Agrees l i

/-! ## Counting over all loops -/

theorem occurrences_add_le_queuings (p : Process) {l k : LoopId} (h : k ≠ l) (i : PromiseId) :
    p.occurrences .queued l i + p.occurrences .queued k i ≤ p.queuings i := by
  simp only [occurrences, queuings]
  induction p.journal with
  | nil => simp
  | cons x xs ih =>
    obtain ⟨e, m, j⟩ := x
    simp only [List.count_cons, List.countP_cons, beq_iff_eq, Bridge.Entry.mk.injEq,
      Bool.and_eq_true]
    by_cases hx : e = .queued ∧ j = i
    · obtain ⟨rfl, rfl⟩ := hx
      by_cases hm : m = l
      · have : ¬ m = k := fun hk => h (hk.symm.trans hm)
        simp [hm, Ne.symm h]
        omega
      · simp only [hm]
        split <;> split <;> simp_all <;> omega
    · have h1 : ¬ (e = .queued ∧ m = l ∧ j = i) := fun h => hx ⟨h.1, h.2.2⟩
      have h2 : ¬ (e = .queued ∧ m = k ∧ j = i) := fun h => hx ⟨h.1, h.2.2⟩
      simp only [h1, h2, hx, if_false]
      exact ih

theorem occurrences_le_queuings (p : Process) (l : LoopId) (i : PromiseId) :
    p.occurrences .queued l i ≤ p.queuings i :=
  Nat.le_trans (Nat.le_add_right _ _) (p.occurrences_add_le_queuings (Nat.succ_ne_self l) i)

@[simp] theorem queuings_log (p : Process) (e : Event) (l : LoopId) (i j : PromiseId) :
    (p.log e l i).queuings j = p.queuings j + if e = .queued then isFor j (some i) else 0 := by
  simp only [queuings, log, List.countP_cons, isFor]
  by_cases he : e = .queued <;> simp [he]

@[simp] theorem queuings_record (p : Process) (e : Event) (l : LoopId) (r : Request)
    (j : PromiseId) : (p.record e l r).queuings j =
      p.queuings j + if e = .queued then isFor j r.promise? else 0 := by
  simp only [record]
  cases r.promise? with
  | none => simp
  | some i => exact queuings_log p e l i j

@[simp] theorem queuings_changeLoop (p : Process) (l : LoopId)
    (f : Bridge.EventLoop → Bridge.EventLoop) : (p.changeLoop l f).queuings = p.queuings := rfl

@[simp] theorem queuings_changePromise (p : Process) (i : PromiseId) (f : Promise → Promise) :
    (p.changePromise i f).queuings = p.queuings := rfl

@[simp] theorem queuings_settle (p : Process) (i : PromiseId) (o : Bridge.Outcome) :
    (p.settle i o).queuings = p.queuings := rfl

@[simp] theorem queuings_answer (p : Process) (r : Request) (e : Error) :
    (p.answer r e).queuings = p.queuings := by
  simp only [answer]
  split <;> rfl

/-! ## Promises by number -/

theorem promise_changePromise (p : Process) (i : PromiseId) (f : Promise → Promise)
    (j : PromiseId) : (p.changePromise i f).promise j =
      if j = i ∧ i < p.promises.size then f (p.promise i) else p.promise j :=
  getD_modify p.promises f default i j

@[simp] theorem record_promises (p : Process) (e : Event) (l : LoopId) (r : Request) :
    (p.record e l r).promises = p.promises := by
  simp only [record]
  split <;> rfl

theorem promise_congr {p q : Process} (h : q.promises = p.promises) (i : PromiseId) :
    q.promise i = p.promise i := by
  simp [promise, h]

/-! ## Facts from the ledger -/

section

variable {p : Process} {l : LoopId} {i : PromiseId}

/-- Nothing happens to a request before it is queued. -/
theorem LedgerAt.untouched (h : p.LedgerAt l) (hq : p.occurrences .queued l i = 0) :
    p.occurrences .accepted l i = 0 ∧ p.occurrences .rejected l i = 0 ∧
      p.occurrences .finished l i = 0 := by
  have h1 := h.taken i
  have h2 := h.decided i
  have h3 := h.ended i
  omega

/-- A request in hand has been queued, and nothing else has happened to it. -/
theorem LedgerAt.of_inHand (h : p.LedgerAt l) (once : p.queuings i ≤ 1)
    (hand : (p.loop l).driver.phase.promise? = some i) :
    0 < p.occurrences .queued l i ∧ p.occurrences .accepted l i = 0 ∧
      p.occurrences .rejected l i = 0 ∧ p.occurrences .finished l i = 0 := by
  have h1 := h.taken i
  have h2 := h.decided i
  have h3 := h.ended i
  have hq := p.occurrences_le_queuings l i
  simp only [EventLoop.inHand, hand, isFor, if_true] at h2
  omega

/-- The request of a task that is tracked has been accepted, and nothing else has happened to it. -/
theorem LedgerAt.of_tracked (h : p.LedgerAt l) (once : p.queuings i ≤ 1) {n : Nat} {x : Tracked}
    (tracked : (p.loop l).driver.tasks[n]? = some x) (hx : x.promise = i) :
    0 < p.occurrences .queued l i ∧ p.occurrences .accepted l i = 1 ∧
      p.occurrences .rejected l i = 0 ∧ p.occurrences .finished l i = 0 := by
  have h1 := h.taken i
  have h2 := h.decided i
  have h3 := h.ended i
  have hq := p.occurrences_le_queuings l i
  obtain ⟨hn, rfl⟩ := List.getElem?_eq_some_iff.mp tracked
  rw [EventLoop.tracking, sum_map_eraseIdx hn] at h3
  simp only [hx, isFor, if_true] at h3
  omega

/-- A request that waits in a queue has been queued, and nothing else has happened to it. -/
theorem LedgerAt.of_waiting (h : p.LedgerAt l) (once : p.queuings i ≤ 1) {r : Request}
    {rest : List Request} (waiting : (p.loop l).requests = r :: rest) (hr : r.promise? = some i) :
    0 < p.occurrences .queued l i ∧ p.occurrences .accepted l i = 0 ∧
      p.occurrences .rejected l i = 0 ∧ p.occurrences .finished l i = 0 := by
  have h1 := h.taken i
  have h2 := h.decided i
  have h3 := h.ended i
  have hq := p.occurrences_le_queuings l i
  simp only [EventLoop.waiting, waiting, List.map_cons, List.sum_cons, hr, isFor, if_true] at h1
  omega

end

/-! ## What each change does to the promises -/

namespace Tickets

variable {pending : PromiseId → Nat} {p q : Process}

theorem queuings_le (hp : p.Tickets pending) (i : PromiseId) : p.queuings i ≤ 1 :=
  Nat.le_trans (Nat.le_add_left _ _) (hp.once i)

theorem lt_size (hp : p.Tickets pending) {l : LoopId} {i : PromiseId}
    (h : 0 < p.occurrences .queued l i) : i < p.promises.size := by
  refine Nat.lt_of_not_le fun hn => ?_
  have := hp.made i hn
  have := p.occurrences_le_queuings l i
  omega

/-- A change that no promise takes part in. -/
theorem same (hp : p.Tickets pending) (size : q.promises.size = p.promises.size)
    (stage : ∀ i, (q.promise i).stage = (p.promise i).stage)
    (queuings : ∀ i, q.queuings i = p.queuings i)
    (journal : ∀ e l i, e ≠ .drained → q.occurrences e l i = p.occurrences e l i) :
    q.Tickets pending where
  once := by simpa only [queuings] using hp.once
  made := by simpa only [queuings, size] using hp.made
  waiting := by simpa only [stage] using hp.waiting
  agrees := by
    intro l i h
    rw [journal _ _ _ Event.noConfusion] at h
    have := hp.agrees l i h
    rw [Agrees, stage, journal _ _ _ Event.noConfusion, journal _ _ _ Event.noConfusion,
      journal _ _ _ Event.noConfusion]
    exact this

/-- A change that one promise takes part in, whose request has been queued. -/
theorem of_promise (hp : p.Tickets pending) (l : LoopId) (i : PromiseId)
    (queued : 0 < p.occurrences .queued l i) (size : q.promises.size = p.promises.size)
    (stage : ∀ j, j ≠ i → (q.promise j).stage = (p.promise j).stage)
    (queuings : ∀ j, q.queuings j = p.queuings j)
    (queues : ∀ k j, q.occurrences .queued k j = p.occurrences .queued k j)
    (journal : ∀ e k j, ¬ (k = l ∧ j = i) → e ≠ .cleared → q.occurrences e k j = p.occurrences e k j)
    (here : q.Agrees l i) : q.Tickets pending where
  once := by simpa only [queuings] using hp.once
  made := by simpa only [queuings, size] using hp.made
  waiting := by
    intro j hj
    have hji : j ≠ i := by
      rintro rfl
      have := hp.once j
      have := p.occurrences_le_queuings l j
      omega
    rw [stage j hji]
    exact hp.waiting j hj
  agrees := by
    intro k j h
    rw [queues] at h
    by_cases hkj : k = l ∧ j = i
    · rw [hkj.1, hkj.2]
      exact here
    · have hj : j ≠ i := by
        rintro rfl
        have hk : k ≠ l := fun hk => hkj ⟨hk, rfl⟩
        have := p.occurrences_add_le_queuings hk j
        have := hp.queuings_le j
        omega
      rw [Agrees, stage j hj, journal _ _ _ hkj Event.noConfusion,
        journal _ _ _ hkj Event.noConfusion, journal _ _ _ hkj Event.noConfusion]
      exact hp.agrees k j h

theorem drain (hp : p.Tickets pending) (l : LoopId) : (p.drain l).Tickets pending := by
  cases hr : (p.loop l).requests with
  | nil =>
    have hq : p.drain l = p := by simp [Process.drain, hr]
    rw [hq]
    exact hp
  | cons r rest =>
    refine hp.same ?_ (fun i => ?_) (fun i => ?_) fun e k i he => ?_
    · simp [Process.drain, hr, changeLoop]
    · simp [Process.drain, hr, changeLoop, promise]
    · simp [Process.drain, hr]
    · simp only [Process.drain, hr, record]
      cases r.promise? with
      | none => rfl
      | some j => exact occurrences_log_other _ _ _ fun h => he h.1

/-- The caller of a request in hand is told that its task will not be started. -/
theorem reject (hp : p.Tickets pending) (hl : p.Ledger) {l : LoopId} {i : PromiseId} (e : Error)
    (h : (p.loop l).driver.phase.promise? = some i) : (p.reject l i e).Tickets pending := by
  obtain ⟨hq, ha, hj, hf⟩ := (hl l).of_inHand (hp.queuings_le i) h
  have hi := hp.lt_size hq
  have hs : i < ((p.changeLoop l fun x => { x with driver := { x.driver with phase := .draining } }).log
      .rejected l i).promises.size := hi
  refine hp.of_promise l i hq ?_ (fun j hji => ?_) (fun j => ?_) (fun k j => ?_)
    (fun e k j hkj _ => ?_) ?_
  · simp [Process.reject, settle, changePromise, log, changeLoop]
  · simp [Process.reject, settle, promise_changePromise, hji]
    rfl
  · simp [Process.reject]
  · exact occurrences_log_other _ _ _ fun h => Event.noConfusion h.1
  · exact occurrences_log_other _ _ _ fun h => hkj h.2
  · rw [Agrees, Process.reject, settle, promise_changePromise, if_pos ⟨rfl, hs⟩]
    simp [occurrences_log, Stage.Agrees, isFor, ha, hj, hf]

/-- The caller of a request in hand is told that its task has been started. -/
theorem accept (hp : p.Tickets pending) (hl : p.Ledger) {l : LoopId} {x : Tracked}
    (h : (p.loop l).driver.phase.promise? = some x.promise) : (p.accept l x).Tickets pending := by
  obtain ⟨hq, ha, hj, hf⟩ := (hl l).of_inHand (hp.queuings_le x.promise) h
  have hi := hp.lt_size hq
  have hs : x.promise < ((p.changeLoop l fun y => { y with driver :=
      { y.driver with tasks := y.driver.tasks ++ [x], phase := .draining } }).log
        .accepted l x.promise).promises.size := hi
  refine hp.of_promise l x.promise hq ?_ (fun j hji => ?_) (fun j => ?_) (fun k j => ?_)
    (fun e k j hkj _ => ?_) ?_
  · simp [Process.accept, changePromise, log, changeLoop]
  · simp [Process.accept, promise_changePromise, hji]
    rfl
  · simp [Process.accept]
  · exact occurrences_log_other _ _ _ fun h => Event.noConfusion h.1
  · exact occurrences_log_other _ _ _ fun h => hkj h.2
  · rw [Agrees, Process.accept, promise_changePromise, if_pos ⟨rfl, hs⟩]
    simp [occurrences_log, Stage.Agrees, isFor, ha, hj, hf]

/-- The caller of a task is told what it came to. -/
theorem finish (hp : p.Tickets pending) (hl : p.Ledger) (l : LoopId) (n : Nat)
    (o : Bridge.Outcome) : (p.finish l n o).Tickets pending := by
  cases hx : (p.loop l).driver.tasks[n]? with
  | none =>
    have hq : p.finish l n o = p := by simp [Process.finish, hx]
    rw [hq]
    exact hp
  | some x =>
    obtain ⟨hq, ha, hj, hf⟩ := (hl l).of_tracked (hp.queuings_le x.promise) hx rfl
    have hi := hp.lt_size hq
    have hs : x.promise < ((p.changeLoop l fun y => { y with driver :=
        { y.driver with tasks := y.driver.tasks.eraseIdx n } }).log
          .finished l x.promise).promises.size := hi
    have he : p.finish l n o = ((p.changeLoop l fun y => { y with driver :=
        { y.driver with tasks := y.driver.tasks.eraseIdx n } }).log
          .finished l x.promise).settle x.promise o := by simp [Process.finish, hx]
    rw [he]
    refine hp.of_promise l x.promise hq ?_ (fun j hji => ?_) (fun j => ?_) (fun k j => ?_)
      (fun e k j hkj _ => ?_) ?_
    · simp [settle, changePromise, log, changeLoop]
    · simp [settle, promise_changePromise, hji]
      rfl
    · simp
    · exact occurrences_log_other _ _ _ fun h => Event.noConfusion h.1
    · exact occurrences_log_other _ _ _ fun h => hkj h.2
    · rw [Agrees, settle, promise_changePromise, if_pos ⟨rfl, hs⟩]
      simp [occurrences_log, Stage.Agrees, isFor, ha, hj, hf]

/-- The caller of a request in a closed queue is told that its task will not be started. -/
theorem clear (hp : p.Tickets pending) (hl : p.Ledger) (l : LoopId) (e : Error) :
    (p.clear l e).Tickets pending := by
  cases hr : (p.loop l).requests with
  | nil =>
    have hq : p.clear l e = p := by simp [Process.clear, hr]
    rw [hq]
    exact hp
  | cons r rest =>
    cases hi : r.promise? with
    | none =>
      have he : p.clear l e = p.changeLoop l fun x => { x with requests := rest } := by
        simp [Process.clear, hr, record, answer, hi]
      rw [he]
      exact hp.same rfl (fun _ => rfl) (fun _ => rfl) fun _ _ _ _ => rfl
    | some i =>
      obtain ⟨hq, ha, hj, hf⟩ := (hl l).of_waiting (hp.queuings_le i) hr hi
      have hi' := hp.lt_size hq
      have hs : i < (((p.changeLoop l fun x => { x with requests := rest }).log .cleared l i).log
          .rejected l i).promises.size := hi'
      have he : p.clear l e = (((p.changeLoop l fun x => { x with requests := rest }).log
          .cleared l i).log .rejected l i).settle i (.error e) := by
        simp [Process.clear, hr, record, answer, hi]
      rw [he]
      refine hp.of_promise l i hq ?_ (fun j hji => ?_) (fun j => ?_) (fun k j => ?_)
        (fun e k j hkj hc => ?_) ?_
      · simp [settle, changePromise, log, changeLoop]
      · simp [settle, promise_changePromise, hji]
        rfl
      · simp
      · refine (occurrences_log_other _ _ _ fun h => Event.noConfusion h.1).trans ?_
        exact occurrences_log_other _ _ _ fun h => Event.noConfusion h.1
      · refine (occurrences_log_other _ _ _ fun h => hkj h.2).trans ?_
        exact occurrences_log_other _ _ _ fun h => hkj h.2
      · rw [Agrees, settle, promise_changePromise, if_pos ⟨rfl, hs⟩]
        simp [occurrences_log, Stage.Agrees, isFor, ha, hj, hf]

/-! Requests that are still to be queued -/

/-- A promise is made for a request that is to be queued. -/
theorem newPromise (hp : p.Tickets pending) :
    Tickets (fun j => pending j + isFor j (some p.promises.size))
      { p with promises := p.promises.push ⟨.submitted, true⟩ } := by
  have hz := hp.made p.promises.size (Nat.le_refl _)
  have hold (j : PromiseId) (h : j < p.promises.size) :
      Process.promise { p with promises := p.promises.push ⟨.submitted, true⟩ } j = p.promise j := by
    simp [promise, Array.getD, h, Nat.lt_succ_of_lt h, Array.getElem_push_lt]
  have hnew : Process.promise { p with promises := p.promises.push ⟨.submitted, true⟩ }
      p.promises.size = ⟨.submitted, true⟩ := by
    simp [promise]
  constructor
  · intro j
    show pending j + isFor j (some p.promises.size) + p.queuings j ≤ 1
    by_cases hj : j = p.promises.size
    · subst hj
      simp only [isFor, if_true]
      omega
    · have := hp.once j
      simp only [isFor, Option.some.injEq, Ne.symm hj, if_false]
      omega
  · intro j hj
    rw [Array.size_push] at hj
    have := hp.made j (Nat.le_of_succ_le hj)
    have hne : ¬ p.promises.size = j := fun h => Nat.not_succ_le_self _ (h ▸ hj)
    show pending j + isFor j (some p.promises.size) + p.queuings j = 0
    simp only [isFor, Option.some.injEq, hne, if_false]
    omega
  · intro j hj
    by_cases hlt : j < p.promises.size
    · rw [hold j hlt]
      refine hp.waiting j ?_
      have hne : ¬ p.promises.size = j := fun h => Nat.lt_irrefl _ (h ▸ hlt)
      simpa [isFor, hne] using hj
    · by_cases hje : j = p.promises.size
      · rw [hje, hnew]
        exact ⟨rfl, rfl, rfl⟩
      · have := hp.made j (Nat.not_lt.mp hlt)
        simp [isFor, Ne.symm hje] at hj
        omega
  · intro l j hj
    have hlt : j < p.promises.size := hp.lt_size hj
    rw [Agrees, hold j hlt]
    exact hp.agrees l j hj

/-- A request that was to be queued is queued. -/
theorem queue {r : Request} (hp : p.Tickets fun j => pending j + isFor j r.promise?)
    (hl : p.Ledger) (l : LoopId) : (p.queue l r).Tickets pending := by
  cases hr : r.promise? with
  | none =>
    have he : p.queue l r =
        p.changeLoop l fun x => { x with requests := x.requests ++ [r] } := by
      simp only [Process.queue, record, hr]
    rw [he]
    simp only [hr, isFor_none, Nat.add_zero] at hp
    exact hp.same rfl (fun _ => rfl) (fun _ => rfl) fun _ _ _ _ => rfl
  | some i =>
    have he : p.queue l r =
        (p.changeLoop l fun x => { x with requests := x.requests ++ [r] }).log .queued l i := by
      simp only [Process.queue, record, hr]
    rw [he]
    simp only [hr] at hp
    have hs (j : PromiseId) : Process.promise ((p.changeLoop l fun x =>
      { x with requests := x.requests ++ [r] }).log .queued l i) j = p.promise j := rfl
    refine ⟨fun j => ?_, fun j hj => ?_, fun j hj => ?_, fun k j hj => ?_⟩
    · have := hp.once j
      simp
      omega
    · have := hp.made j hj
      simp
      omega
    · rw [hs]
      exact hp.waiting j (Nat.lt_of_lt_of_le hj (Nat.le_add_right _ _))
    · have ha (e : Event) (h : e ≠ .queued) : Process.occurrences ((p.changeLoop l fun x =>
          { x with requests := x.requests ++ [r] }).log .queued l i) e k j =
            p.occurrences e k j :=
        occurrences_log_other _ _ _ fun hx => h hx.1
      rw [Agrees, hs, ha _ Event.noConfusion, ha _ Event.noConfusion, ha _ Event.noConfusion]
      by_cases hkj : k = l ∧ j = i
      · obtain ⟨rfl, rfl⟩ := hkj
        have hz : p.occurrences .queued k j = 0 := by
          have ho := hp.once j
          have hq := p.occurrences_le_queuings k j
          simp only [isFor, if_true] at ho
          omega
        obtain ⟨h1, h2, h3⟩ := (hl k).untouched hz
        rw [h1, h2, h3]
        exact hp.waiting j (by simp [isFor])
      · have hj' : 0 < p.occurrences .queued k j := by
          rw [occurrences_log_other _ _ _ fun hx => hkj hx.2] at hj
          exact hj
        exact hp.agrees k j hj'

/-- A request that was to be queued is given up. -/
theorem discard {r : Request} (hp : p.Tickets fun j => pending j + isFor j r.promise?)
    (e : Error) : (p.answer r e).Tickets pending := by
  cases hr : r.promise? with
  | none =>
    simp only [answer, hr]
    simpa only [hr, isFor_none, Nat.add_zero] using hp
  | some i =>
    simp only [answer, hr]
    simp only [hr] at hp
    have hz : pending i = 0 ∧ p.queuings i = 0 := by
      have := hp.once i
      simp only [isFor, if_true] at this
      omega
    have hs (j : PromiseId) (h : j ≠ i) : (p.settle i (.error e)).promise j = p.promise j := by
      simp [settle, promise_changePromise, h]
    refine ⟨fun j => ?_, fun j hj => ?_, fun j hj => ?_, fun k j hj => ?_⟩
    · have := hp.once j
      simp only [queuings_settle]
      omega
    · have hj' : p.promises.size ≤ j := by simpa [settle, changePromise] using hj
      have := hp.made j hj'
      simp only [queuings_settle]
      omega
    · have hji : j ≠ i := fun h => by rw [h, hz.1] at hj; exact Nat.lt_irrefl _ hj
      rw [hs j hji]
      exact hp.waiting j (Nat.lt_of_lt_of_le hj (Nat.le_add_right _ _))
    · have hji : j ≠ i := by
        rintro rfl
        have h := p.occurrences_le_queuings k j
        rw [hz.2] at h
        exact absurd (Nat.lt_of_lt_of_le hj h) (Nat.lt_irrefl _)
      rw [Agrees, hs j hji]
      exact hp.agrees k j hj

end Tickets

/-- Every change keeps the promises and the journal in agreement. -/
theorem Change.tickets {pending : PromiseId → Nat} {p q : Process} (h : p.Change q)
    (hl : p.Ledger) (hp : p.Tickets pending) : q.Tickets pending := by
  cases h with
  | idle h =>
    exact hp.same (by rw [h.promises]) (fun i => by rw [h.promise])
      (fun i => by simp [queuings, h.journal]) fun e l i _ => by simp [occurrences, h.journal]
  | python l f =>
    have hi : (p.changePythonLoop l f).promises = p.promises := by
      simp only [changePythonLoop]
      split <;> rfl
    exact hp.same (by rw [hi]) (fun i => by rw [promise_congr hi])
      (fun i => by simp [queuings]) fun e l i _ => by simp [occurrences]
  | queue l r _ h =>
    have he : p.queue l r =
        p.changeLoop l fun x => { x with requests := x.requests ++ [r] } := by
      simp only [Process.queue, record, h]
    rw [he]
    exact hp.same rfl (fun _ => rfl) (fun _ => rfl) fun _ _ _ _ => rfl
  | drain l _ => exact hp.drain l
  | clear l e => exact hp.clear hl l e
  | reject l i e h => exact hp.reject hl e h
  | accept l x h => exact hp.accept hl h
  | finish l n o => exact hp.finish hl l n o
  | abandon i =>
    refine hp.same (by simp [changePromise]) (fun j => ?_) (fun _ => rfl) fun _ _ _ _ => rfl
    rw [promise_changePromise]
    split
    · next h => rw [h.1]
    · rfl
  | shut | move | stopping | retask | owners | addLoop | exit | defaultLoop =>
    exact hp.same rfl (fun _ => rfl) (fun _ => rfl) fun _ _ _ _ => rfl

/-- What keeps the ledgers and the promises in order. -/
structure Faithful (p q : Process) : Prop where
  ledger : p.Ledger → q.Ledger
  tickets : ∀ pending, p.Ledger → p.Tickets pending → q.Tickets pending

namespace Faithful

theorem refl (p : Process) : p.Faithful p := ⟨id, fun _ _ => id⟩

theorem trans {p q r : Process} (pq : p.Faithful q) (qr : q.Faithful r) : p.Faithful r :=
  ⟨fun h => qr.ledger (pq.ledger h),
    fun pending hl hp => qr.tickets pending (pq.ledger hl) (pq.tickets pending hl hp)⟩

theorem of_change {p q : Process} (h : p.Change q) : p.Faithful q :=
  ⟨h.ledger, fun _ => h.tickets⟩

theorem of_turns {p q : Process} (h : p.Turns q) : p.Faithful q := by
  induction h with
  | refl => exact .refl p
  | tail _ h ih => exact ih.trans (of_change h)

/-- Nothing happens to the requests while the environments and the interpreter come and go. -/
theorem of_same {p q : Process} (loops : q.loops = p.loops) (promises : q.promises = p.promises)
    (journal : q.journal = p.journal) : p.Faithful q where
  ledger := fun hl => hl.same (fun l => by simp [loop, loops]) journal
  tickets := fun _ _ hp => hp.same (by rw [promises]) (fun i => by rw [promise_congr promises])
    (fun i => by simp [queuings, journal]) fun e l i _ => by simp [occurrences, journal]

end Faithful

end Process

end EmbeddedPython
