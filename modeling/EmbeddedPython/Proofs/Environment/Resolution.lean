import EmbeddedPython.Proofs.Bridge.Promise
import EmbeddedPython.Proofs.Environment.Routine

/-
  Every request is resolved exactly once

  Whatever the threads of the host and the drivers do, and in whatever order, a
  request that a queue has taken is taken out exactly once, by the driver or by
  the closing of the queue, and its caller is told once whether the task has
  been started and, if so, once what it came to. Nobody is left waiting for a
  driver that has left.
-/

namespace EmbeddedPython

open Activity Bridge

/-- The promise that comes with a request that is still to be queued. -/
def Chore.promise? : Chore → Option PromiseId
  | enqueue _ r => r.promise?
  | _ => none

theorem Chore.Errand.promise? {c : Chore} (h : c.Errand) : c.promise? = none := by
  cases c with
  | enqueue l r => exact h
  | _ => rfl

/-- How many requests with a promise are still to be queued. -/
def pendingIn (chores : Chores) (i : PromiseId) : Nat :=
  (chores.map fun c => isFor i c.2.promise?).sum

theorem pendingIn_append (a b : Chores) (i : PromiseId) :
    pendingIn (a ++ b) i = pendingIn a i + pendingIn b i := by
  simp [pendingIn]

theorem pendingIn_eraseIdx {chores : Chores} {n : Nat} {t : ThreadId} {c : Chore}
    (h : chores[n]? = some (t, c)) (i : PromiseId) :
    pendingIn chores i = pendingIn (chores.eraseIdx n) i + isFor i c.promise? := by
  obtain ⟨hn, hx⟩ := List.getElem?_eq_some_iff.mp h
  rw [pendingIn, Process.sum_map_eraseIdx hn, hx, Nat.add_comm]
  rfl

namespace Activity

variable {α β : Type}

/-- Whether an activity keeps the ledgers and the promises in order. -/
def Faithful (x : Activity α) : Prop := ∀ p : Process, p.Faithful (x p).2

theorem Turning.faithful {x : Activity α} (h : Turning x) : Faithful x := fun p => .of_turns (h p)

theorem Idle.faithful {x : Activity α} (h : Idle x) : Faithful x := h.turning.faithful

namespace Faithful

theorem pure (a : α) : Faithful (Pure.pure a) := fun p => .refl p

theorem bind {x : Activity α} {f : α → Activity β} (hx : Faithful x) (hf : ∀ a, Faithful (f a)) :
    Faithful (x >>= f) :=
  fun p => (hx p).trans (hf _ _)

theorem get_bind {f : Process → Activity β} (hf : ∀ p, Faithful (f p)) : Faithful (get >>= f) :=
  fun p => hf p p

end Faithful

theorem modifyEnvironment_faithful (e : EnvironmentId) (f : Environment → Environment) :
    Faithful (modifyEnvironment e f) := fun _ => .of_same rfl rfl rfl

/-- Whether an activity keeps the ledgers and the promises in order and leaves no request behind
that anybody waits for. -/
def Tame (x : Activity Chores) : Prop := Faithful x ∧ ∀ p i, pendingIn (x p).1 i = 0

namespace Tame

theorem pure {chores : Chores} (h : ∀ i, pendingIn chores i = 0) : Tame (Pure.pure chores) :=
  ⟨.pure chores, fun _ => h⟩

theorem nil : Tame (Pure.pure []) := pure fun _ => rfl

theorem bind {x : Activity α} {f : α → Activity Chores} (hx : Faithful x) (hf : ∀ a, Tame (f a)) :
    Tame (x >>= f) :=
  ⟨.bind hx fun a => (hf a).1, fun _ => (hf _).2 _⟩

theorem get_bind {f : Process → Activity Chores} (hf : ∀ p, Tame (f p)) : Tame (get >>= f) :=
  ⟨.get_bind fun p => (hf p).1, fun p => (hf p).2 p⟩

theorem of_routine {x : Activity Chores} (h : Routine x) : Tame x := by
  refine ⟨h.1.faithful, fun p i => ?_⟩
  refine List.sum_eq_zero fun n hn => ?_
  obtain ⟨c, hc, rfl⟩ := List.mem_map.mp hn
  rw [(h.2 p c hc).promise?, isFor_none]

end Tame

/-! ## Starting and closing -/

theorem closing_tame (t : ThreadId) (e : EnvironmentId) : Tame (closing t e) := by
  have marked : Faithful (markClosed e) := by
    refine .get_bind fun p => ?_
    dsimp only
    split
    · exact .pure none
    · exact .bind (modifyEnvironment_faithful e _) fun _ => .pure _
  refine .bind marked fun found => ?_
  rcases found with _ | _ | l
  · exact .nil
  · exact .pure fun _ => rfl
  · refine .bind (markDisposed_turning l).faithful fun disposed => ?_
    cases disposed with
    | true => exact .pure fun _ => rfl
    | false => exact .pure fun _ => rfl

theorem beginStart_eq (o : Options) (p : Process) : beginStart o p =
    if p.active then (.error .alreadyRunning, p) else (.ok p.environments.size, p.enroll o) := by
  simp only [beginStart, run_get_bind]
  split <;> rfl

theorem beginStart_faithful (o : Options) : Faithful (beginStart o) := by
  intro p
  rw [beginStart_eq]
  split
  · exact .refl p
  · refine .of_same ?_ ?_ ?_ <;> cases h : p.host.lock.alive <;>
      simp [Process.enroll, Process.beginInterpreter, h]

theorem resolve_faithful (t : ThreadId) (e : EnvironmentId) : Faithful (resolve t e) := by
  refine .get_bind fun p => .bind (ask_idle t _).faithful fun r => ?_
  cases r with
  | ok b => exact .bind (modifyEnvironment_faithful e _) fun _ => .pure _
  | error _ => exact .pure _

theorem dropBindings_faithful (t : ThreadId) (e : EnvironmentId) : Faithful (dropBindings t e) := by
  refine .get_bind fun p => ?_
  split
  · exact .pure ()
  · exact .bind (modifyEnvironment_faithful e _) fun _ => (tell_idle t _).faithful

theorem endDefault_turning (t : ThreadId) (loop : Option LoopId) (waited : Bool) :
    Turning (endDefault t loop waited) := by
  rcases loop with _ | l
  · exact .pure _
  · cases waited with
    | true => exact endDispose_turning t l
    | false => exact .pure _

theorem releaseDefault_turning (t : ThreadId) (loop : Option LoopId) :
    Turning (releaseDefault t loop) := by
  rcases loop with _ | l
  · exact .pure ()
  · refine .bind (disown_turning l) fun last => ?_
    cases last with
    | true => exact (releaseLoop_idle t l).turning
    | false => exact .pure ()

theorem decideClose_idle (x : Environment) (disposed : Except Error Unit) :
    Idle (decideClose x disposed) := by
  simp only [decideClose]
  split
  · exact .pure _
  · split
    · exact .pure _
    · cases disposed <;> exact .bind (note_idle _) fun _ => .pure _

theorem settleClose_faithful (t : ThreadId) (e : EnvironmentId) (loop : Option LoopId)
    (waited : Bool) : Faithful (settleClose t e loop waited) := by
  refine .bind (endDefault_turning t loop waited).faithful fun disposed => ?_
  refine .bind (releaseDefault_turning t loop).faithful fun _ => ?_
  refine .bind (dropBindings_faithful t e) fun _ => .get_bind fun p => ?_
  exact .bind (modifyEnvironment_faithful e _) fun _ => (decideClose_idle _ disposed).faithful

theorem finalize_same (p : Process) (t : ThreadId) :
    (p.finalize t).loops = p.loops ∧ (p.finalize t).promises = p.promises ∧
      (p.finalize t).journal = p.journal := by
  simp only [Process.finalize]
  split <;> exact ⟨rfl, rfl, rfl⟩

theorem finishClose_faithful (t : ThreadId) (finalizes : Bool) :
    Faithful (finishClose t finalizes) := by
  intro p
  cases finalizes with
  | true =>
    obtain ⟨hl, hp, hj⟩ := finalize_same p t
    exact .of_same hl hp hj
  | false => exact .of_same rfl rfl rfl

/-! ## Submitting -/

/-- Preparing a request makes a promise for it, or nothing at all. -/
theorem prepare_cases (t : ThreadId) (l : LoopId) (awaitable : Handle) (token : Cancellation.Token)
    (p : Process) :
    (∃ e q, prepare t l awaitable token p = (.error e, q) ∧ p.Idles q) ∨
    ∃ coroutine q, p.Idles q ∧ prepare t l awaitable token p =
      (.ok (.schedule coroutine token q.promises.size, q.promises.size),
        { q with promises := q.promises.push ⟨.submitted, true⟩ }) := by
  have prepares := prepare_prepares t l awaitable token p
  generalize prepare t l awaitable token p = result at prepares ⊢
  cases prepares with
  | disposed => exact .inl ⟨_, _, rfl, .refl p⟩
  | unasked asked => exact .inl ⟨_, _, rfl, ask_idles asked⟩
  | refused asked named | unnamed asked named =>
    exact .inl ⟨_, _, rfl, (ask_idles asked).trans (ask_idles named)⟩
  | uncloned asked cloned => exact .inl ⟨_, _, rfl, (ask_idles asked).trans (ask_idles cloned)⟩
  | made asked cloned => exact .inr ⟨_, _, (ask_idles asked).trans (ask_idles cloned), rfl⟩

end Activity

/-! ## Actions and chores -/

namespace System

/-- The ledgers and the promises of a process with everything that its threads have begun. -/
structure Books (s : System) : Prop where
  ledger : s.process.Ledger
  tickets : s.process.Tickets (pendingIn s.chores)

theorem Books.of_tame {x : Activity Chores} (hx : Tame x) {p : Process} {chores : Chores}
    (h : Books ⟨p, chores⟩) : (after chores x p).Books where
  ledger := (hx.1 p).ledger h.ledger
  tickets := by
    have hc : pendingIn (after chores x p).chores = pendingIn chores := by
      funext i
      rw [after, pendingIn_append, hx.2 p i, Nat.add_zero]
    rw [hc]
    exact (hx.1 p).tickets _ h.ledger h.tickets

/-- A submission leaves a request behind that is still to be queued. -/
theorem Books.submit {s : System} (h : s.Books) (t : ThreadId) (l : LoopId) (awaitable : Handle)
    (token : Cancellation.Token) : (s.step (.submit t l awaitable token)).Books := by
  obtain ⟨p, chores⟩ := s
  rcases prepare_cases t l awaitable token p with ⟨e, q, hp, hq⟩ | ⟨c, q, hq, hp⟩
  · have hs : step ⟨p, chores⟩ (.submit t l awaitable token) = ⟨q, chores ++ []⟩ := by
      simp only [step, after, Action.run, run_bind, hp, run_pure]
    rw [hs, List.append_nil]
    have hf : p.Faithful q := .of_turns hq.turns
    exact ⟨hf.ledger h.ledger, hf.tickets _ h.ledger h.tickets⟩
  · have hs : step ⟨p, chores⟩ (.submit t l awaitable token) =
        ⟨{ q with promises := q.promises.push ⟨.submitted, true⟩ },
          chores ++ [(t, .enqueue l (.schedule c token q.promises.size))]⟩ := by
      simp only [step, after, Action.run, run_bind, hp, run_pure]
    have hf : p.Faithful q := .of_turns hq.turns
    have hn := (hf.tickets _ h.ledger h.tickets).newPromise
    rw [hs]
    refine ⟨(hf.ledger h.ledger).same (fun _ => rfl) rfl, ?_⟩
    have hc : pendingIn (chores ++ [(t, .enqueue l (.schedule c token q.promises.size))]) =
        fun j => pendingIn chores j + isFor j (some q.promises.size) := by
      funext j
      simp [pendingIn_append]
      simp [pendingIn, Chore.promise?, Request.promise?]
    rw [hc]
    exact hn

/-- A request that a thread still has to queue is queued or given up. -/
theorem Books.enqueue {s : System} (h : s.Books) {n : Nat} {t : ThreadId} {l : LoopId}
    {r : Request} (hn : s.chores[n]? = some (t, .enqueue l r)) : (s.step (.proceed n)).Books := by
  obtain ⟨p, chores⟩ := s
  have hc : pendingIn chores = fun j => pendingIn (chores.eraseIdx n) j + isFor j r.promise? :=
    funext fun j => pendingIn_eraseIdx hn j
  have ht := h.tickets
  simp only [hc] at ht
  rcases push_cases t l r p with ⟨hp, -⟩ | ⟨w, q, q', hp, hopen, hq, hq'⟩
  · have hs : (step ⟨p, chores⟩ (.proceed n)) =
        ⟨(tell t r.drop (p.answer r .eventLoopClosed)).2, chores.eraseIdx n ++ []⟩ := by
      simp only [step, hn, after, Chore.run, run_bind, hp]
      rfl
    have hf : (p.answer r .eventLoopClosed).Faithful (tell t r.drop (p.answer r .eventLoopClosed)).2 :=
      .of_turns (tell_idle t r.drop _).turns
    have hl : (p.answer r .eventLoopClosed).Ledger :=
      h.ledger.same (fun l => by simp) (by simp [Process.answer]; split <;> rfl)
    rw [hs, List.append_nil]
    exact ⟨hf.ledger hl, hf.tickets _ hl (ht.discard _)⟩
  · have hl : (q.queue l r).Ledger :=
      (h.ledger.idle hq).queue r (by rw [hq.loop]; exact hopen)
    have hf : p.Faithful q := .of_turns hq.turns
    have hf' : (q.queue l r).Faithful q' := .of_turns hq'.turns
    have ht' : q'.Tickets (pendingIn (chores.eraseIdx n)) :=
      hf'.tickets _ hl ((hf.tickets _ h.ledger ht).queue (h.ledger.idle hq) l)
    have hs : ∃ more, (step ⟨p, chores⟩ (.proceed n)) = ⟨q', chores.eraseIdx n ++ more⟩ ∧
        ∀ i, pendingIn more i = 0 := by
      simp only [step, hn, after, Chore.run, run_bind, hp]
      cases w with
      | none => exact ⟨[], rfl, fun _ => rfl⟩
      | some w => exact ⟨[(t, .wake w)], rfl, fun _ => rfl⟩
    obtain ⟨more, hs, hm⟩ := hs
    have hc' : pendingIn (chores.eraseIdx n ++ more) = pendingIn (chores.eraseIdx n) := by
      funext i
      rw [pendingIn_append, hm, Nat.add_zero]
    rw [hs]
    exact ⟨hf'.ledger hl, hc' ▸ ht'⟩

theorem Books.routine {s : System} (h : s.Books) {a : Action} (ha : a.IsRoutine) :
    (s.step a).Books := by
  rw [s.step_of_routine ha]
  exact .of_tame (.of_routine (Action.routine ha)) h

/-- A chore that is no queuing is taken up. -/
theorem Books.proceed {s : System} (h : s.Books) {n : Nat} {t : ThreadId} {c : Chore}
    (hn : s.chores[n]? = some (t, c)) (hc : c.promise? = none) (tame : Tame (c.run t)) :
    (s.step (.proceed n)).Books := by
  have hs : s.step (.proceed n) = after (s.chores.eraseIdx n) (c.run t) s.process := by
    simp only [System.step, hn]
  have hp : pendingIn s.chores = pendingIn (s.chores.eraseIdx n) := by
    funext i
    rw [pendingIn_eraseIdx hn, hc, isFor_none, Nat.add_zero]
  rw [hs]
  exact .of_tame tame ⟨h.ledger, hp ▸ h.tickets⟩

/-- What happens by one action keeps the books in order. -/
theorem Books.step {s : System} (h : s.Books) (a : Action) : (s.step a).Books := by
  cases a with
  | submit t l awaitable token => exact h.submit t l awaitable token
  | start t o =>
    refine .of_tame (.bind (beginStart_faithful o) fun started => ?_) h
    cases started with
    | ok e => exact .pure fun _ => rfl
    | error _ => exact .nil
  | close t e =>
    refine .of_tame (.get_bind fun p => ?_) h
    split
    · exact closing_tame t e
    · exact .nil
  | proceed n =>
    cases hn : s.chores[n]? with
    | none =>
      have hs : s.step (.proceed n) = s := by simp only [System.step, hn]
      rw [hs]
      exact h
    | some tc =>
      obtain ⟨t, c⟩ := tc
      cases c with
      | enqueue l r => exact h.enqueue hn
      | wake n => exact h.proceed hn rfl (.of_routine (Chore.routine t trivial))
      | endDispose l dropped => exact h.proceed hn rfl (.of_routine (Chore.routine t trivial))
      | resolve e =>
        refine h.proceed hn rfl (.bind (resolve_faithful t e) fun result => ?_)
        cases result with
        | ok _ => exact .nil
        | error _ => exact closing_tame t e
      | settleClose e loop waited =>
        exact h.proceed hn rfl
          (.bind (settleClose_faithful t e loop waited) fun _ => .pure fun _ => rfl)
      | finishClose finalizes =>
        exact h.proceed hn rfl (.bind (finishClose_faithful t finalizes) fun _ => .nil)
  | _ => exact h.routine trivial

theorem Books.initial (attached : Bool) : (System.initial attached).Books := by
  have hl (l : LoopId) : (System.initial attached).process.loop l = default := by
    cases attached <;> rfl
  have hj : (System.initial attached).process.journal = [] := by cases attached <;> rfl
  have hp : (System.initial attached).process.promises = #[] := by cases attached <;> rfl
  have hc : pendingIn (System.initial attached).chores = fun _ => 0 := rfl
  refine ⟨fun l => ⟨fun i => ?_, fun i => ?_, fun i => ?_, fun h => ?_, fun _ => ?_⟩, ?_⟩
  · simp only [hl, Process.occurrences, hj, List.count_nil]
    rfl
  · simp only [hl, Process.occurrences, hj, List.count_nil]
    rfl
  · simp only [hl, Process.occurrences, hj, List.count_nil]
    rfl
  · rw [hl] at h
    exact Bridge.Phase.noConfusion h
  · rw [hl]
    exact ⟨rfl, rfl, rfl⟩
  · rw [hc]
    constructor <;> simp [Process.queuings, Process.occurrences, hj]

/-- The books are in order after any actions. -/
theorem books_run (attached : Bool) (actions : List Action) : (run attached actions).Books := by
  refine List.foldlRecOn (motive := System.Books) actions step (Books.initial attached) ?_
  exact fun s h a _ => h.step a

/-- Every request is resolved exactly once. A request that a queue has taken was taken by one queue,
once; it waits there, or it has been taken out once, by the driver or by the closing of the queue.
From then on the driver has it in hand, or its caller has been told once that the task is started or
that it is not; and a task that has been started is tracked, or its caller has been told once what
it came to. The stage of the promise is always what the journal says. Once a driver has left, none
of its requests is unresolved, and its queue hands every request back. -/
theorem every_request_resolves_once (attached : Bool) (actions : List Action) (l : LoopId) :
    let p := (run attached actions).process
    (∀ i, p.occurrences .queued l i ≤ 1 ∧
      (∀ k, k ≠ l → 0 < p.occurrences .queued l i → p.occurrences .queued k i = 0) ∧
      p.occurrences .queued l i =
        p.occurrences .drained l i + p.occurrences .cleared l i + (p.loop l).waiting i ∧
      p.occurrences .drained l i + p.occurrences .cleared l i =
        p.occurrences .accepted l i + p.occurrences .rejected l i + (p.loop l).inHand i ∧
      p.occurrences .accepted l i = p.occurrences .finished l i + (p.loop l).tracking i ∧
      (0 < p.occurrences .queued l i → p.Agrees l i)) ∧
    ((p.loop l).driver.phase = .exited →
      (∀ i, p.occurrences .queued l i = 1 →
        p.occurrences .drained l i + p.occurrences .cleared l i = 1 ∧
        p.occurrences .rejected l i + p.occurrences .accepted l i = 1 ∧
        p.occurrences .finished l i = p.occurrences .accepted l i ∧
        ∃ outcome, (p.promise i).stage = .settled outcome) ∧
      ∀ t r, push t l r p = (.refused, p)) := by
  intro p
  have books : (run attached actions).Books := books_run attached actions
  have ledger : p.LedgerAt l := books.ledger l
  have once (i : PromiseId) : p.queuings i ≤ 1 := books.tickets.queuings_le i
  have queued (i : PromiseId) : p.occurrences .queued l i ≤ 1 :=
    Nat.le_trans (p.occurrences_le_queuings l i) (once i)
  refine ⟨fun i => ⟨queued i, fun k hk h => ?_, ledger.taken i, ledger.decided i, ledger.ended i,
    books.tickets.agrees l i⟩, fun hx => ⟨fun i hi => ?_, fun t r => ?_⟩⟩
  · have := p.occurrences_add_le_queuings hk i
    have := once i
    omega
  · obtain ⟨tasks, requests, -⟩ := ledger.exited hx
    have taken := ledger.taken i
    have decided := ledger.decided i
    have ended := ledger.ended i
    simp only [EventLoop.waiting, requests, List.map_nil, List.sum_nil] at taken
    simp only [EventLoop.inHand, hx, Bridge.Phase.promise?, isFor_none] at decided
    simp only [EventLoop.tracking, tasks, List.map_nil, List.sum_nil] at ended
    have agrees : p.Agrees l i := books.tickets.agrees l i (Nat.lt_of_lt_of_eq Nat.one_pos hi.symm)
    refine ⟨by omega, by omega, by omega, ?_⟩
    cases hs : (p.promise i).stage with
    | submitted =>
      simp only [Process.Agrees, hs, Stage.Agrees] at agrees
      omega
    | accepted =>
      simp only [Process.Agrees, hs, Stage.Agrees] at agrees
      omega
    | settled outcome => exact ⟨outcome, rfl⟩
  · rcases push_cases t l r p with ⟨h, -⟩ | ⟨_, _, _, _, isOpen, _, _⟩
    · exact h
    · rw [(ledger.exited hx).2.2] at isOpen
      cases isOpen

end System

end EmbeddedPython
