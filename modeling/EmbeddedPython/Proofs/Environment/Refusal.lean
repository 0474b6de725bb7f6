import EmbeddedPython.Proofs.Environment.Clearing
import EmbeddedPython.Proofs.Environment.Provenance
import EmbeddedPython.Proofs.Handle.Lending

/-
  Requests that are refused

  A request is refused without anything being done to its object: because its
  loop is disposed of or its queue closed, because its driver is to stop, or
  because the signal of its token has been raised. What the request has borrowed
  is given back, and the object can be submitted again as if nothing had
  happened.
-/

namespace EmbeddedPython

open Activity Bridge

/-! ## What a submission leaves behind -/

namespace Bridge

open Activity Process

/-- What comes of submitting an object. -/
theorem prepare_lends (t : ThreadId) (l : LoopId) (awaitable : Handle) (token : Cancellation.Token)
    (p : Process) : (∃ e q, prepare t l awaitable token p = (.error e, q)) ∨
      ∃ h k, (awaitable.hasAttr "__await__").perform t p.host = (.ok true, h) ∧
        awaitable.clone.perform t h = (.ok (Handle.adopt awaitable.ref), k) ∧
        prepare t l awaitable token p =
          (.ok (.schedule (Handle.adopt awaitable.ref) token p.promises.size, p.promises.size),
            { p with host := k, promises := p.promises.push ⟨.submitted, true⟩ }) := by
  have prepares := prepare_prepares t l awaitable token p
  generalize prepare t l awaitable token p = result at prepares ⊢
  cases prepares with
  | @made coroutine q r asked cloned =>
    obtain rfl : coroutine = Handle.adopt awaitable.ref := (Handle.clone_ok (ask_ok cloned)).1
    refine .inr ⟨q.host, r.host, ask_ok asked, ask_ok cloned, ?_⟩
    rw [ask_changes cloned, ask_changes asked]
  | _ => exact .inl ⟨_, _, rfl⟩

end Bridge

namespace System

variable {s : System} {a : Action} {ds : List Deed} {b : Board} {l : LoopId} {c : Handle} {i : PromiseId}
  {e : Error}

/-- A submission leaves a request to be pushed. It asks the object for one attribute and takes one
reference to it. -/
structure Lends (s : System) (t : ThreadId) (l : LoopId) (awaitable : Handle)
    (token : Cancellation.Token) (c : Handle) (i : PromiseId) : Prop where
  handle : c = Handle.adopt awaitable.ref
  promise : i = s.process.promises.size
  request : (s.step (.submit t l awaitable token)).chores =
    s.chores ++ [(t, .enqueue l (.schedule c token i))]
  host : ((awaitable.hasAttr "__await__").perform t s.process.host).2.Resembles
    (s.step (.submit t l awaitable token)).process.host
  held : (s.step (.submit t l awaitable token)).process.host.held =
    if c.isImmortal then s.process.host.held else c.ref :: s.process.host.held
  /-- nothing is done to a coroutine, or to anything else, by asking the coroutine -/
  spares : s.process.host.lock.alive = true → s.process.host.memory.IsCoroutine awaitable.ref →
    s.process.host.memory.Adds (s.step (.submit t l awaitable token)).process.host.memory

theorem submit_lends (s : System) (t : ThreadId) (l : LoopId) (awaitable : Handle)
    (token : Cancellation.Token) : (s.step (.submit t l awaitable token)).chores = s.chores ∨
      Lends s t l awaitable token (Handle.adopt awaitable.ref) s.process.promises.size := by
  rcases prepare_lends t l awaitable token s.process with ⟨e, q, failed⟩ |
    ⟨h, k, asked, cloned, prepared⟩
  · refine .inl ?_
    show (after s.chores (Action.run (.submit t l awaitable token)) s.process).chores = _
    rw [after, Action.run, run_bind, failed]
    exact List.append_nil _
  · have next : s.step (.submit t l awaitable token) =
        ⟨{ s.process with host := k, promises := s.process.promises.push ⟨.submitted, true⟩ },
          s.chores ++ [(t, .enqueue l
            (.schedule (Handle.adopt awaitable.ref) token s.process.promises.size))]⟩ := by
      show after s.chores (Action.run (.submit t l awaitable token)) s.process = _
      rw [after, Action.run, run_bind, prepared]
      rfl
    obtain ⟨-, same, held⟩ := Handle.clone_lends cloned
    have balanced := awaitable.hasAttr_balanced "__await__" t s.process.host
    rw [asked] at balanced
    refine .inr ⟨rfl, rfl, by rw [next], ?_, ?_, fun alive coroutine => ?_⟩
    · rw [asked, next]
      exact same
    · rw [next, ← show h.held = s.process.host.held from balanced]
      exact held
    · obtain ⟨n, returns, adds⟩ := coroutine.awaited (Handle.clone_ok cloned).2
      obtain ⟨h', asked', rfl⟩ := returns t s.process.host alive rfl
      cases asked.symm.trans asked'
      rw [next]
      exact same.memory.symm ▸ adds

end System

/-! ## Where a request comes from -/

/-- Whether a request is to be pushed, waits in a queue, or is about to be started. -/
inductive Board.Waits (b : Board) (c : Handle) (i : PromiseId) : Prop where
  | pending {l : LoopId} {token : Cancellation.Token} (h : (l, .schedule c token i) ∈ b.pending)
  | queued {l : LoopId} {token : Cancellation.Token} (h : .schedule c token i ∈ (b.desk l).requests)
  | inHand {l : LoopId} {token : Cancellation.Token} (h : (b.desk l).phase = .starting c token i)

/-- A driver has in hand what has been in its queue. -/
theorem Bridge.Desk.Turn.takes {l : LoopId} {d d' : Desk} {ds : List Deed} (h : d.Turn l ds d')
    {c : Handle} {token : Cancellation.Token} {i : PromiseId} (next : d'.phase = .starting c token i) :
    d.phase = .starting c token i ∨ .schedule c token i ∈ d.requests := by
  cases h with
  | takeSchedule c token i rest phase hr =>
    cases next
    exact .inr (hr ▸ List.mem_cons_self)
  | go phase goes =>
    subst next
    cases goes
  | idle | push => exact .inl next
  | _ => simp_all [withdraw, Desk.fresh]

namespace System

variable {s : System} {a : Action} {ds : List Deed} {b : Board} {l : LoopId} {c : Handle} {i : PromiseId}
  {e : Error}

/-- A request has been there before, or is submitted. -/
theorem Sound.waits (sound : s.Sound) (a : Action) (waits : (s.step a).board.Waits c i) :
    s.board.Waits c i ∨ ∃ t l awaitable token, a = .submit t l awaitable token ∧
      Lends s t l awaitable token c i := by
  have h := act sound a
  have queued {l : LoopId} {token : Cancellation.Token}
      (hr : .schedule c token i ∈ ((s.step a).board.desk l).requests) : s.board.Waits c i := by
    rcases (h.turn l).tokens.1 _ hr with hr | pushed
    · exact .queued hr
    · rcases h.pushes (mem_about.mp pushed).1 with hr | ⟨_, _, -, he⟩
      · exact .pending hr
      · cases he
  cases waits with
  | queued hr => exact .inl (queued hr)
  | @inHand l token phase =>
    refine .inl ?_
    rcases (h.turn l).takes phase with phase | hr
    · exact .inHand phase
    · exact .queued hr
  | @pending l token hr =>
    rcases h.pending_of hr with hr | he | ⟨_, he⟩ | ⟨t, awaitable, token', rfl, he⟩
    · exact .inl (.pending hr)
    · cases he
    · cases he
    · cases he
      rcases s.submit_lends t l awaitable token with same | lends
      · have pending : (s.step (.submit t l awaitable token)).board.pending = s.board.pending :=
          congrArg EmbeddedPython.pushes same
        rw [pending] at hr
        exact .inl (.pending hr)
      · exact .inr ⟨t, l, awaitable, token, rfl, lends⟩

/-- How a request is refused, with the action that does so and the error that the caller is told. The
last argument is the system as if the request were not there and its handle had been dropped. -/
inductive Refuses (s : System) : Action → Handle → PromiseId → Error → System → Prop where
  /-- the queue is closed when the request is to be pushed -/
  | closed {n : Nat} {t : ThreadId} {l : LoopId} {c : Handle} {token : Cancellation.Token}
      {i : PromiseId} (chore : s.chores[n]? = some (t, .enqueue l (.schedule c token i)))
      (closed : (s.process.loop l).notifier = none) :
      Refuses s (.proceed n) c i .eventLoopClosed
        ({ s with chores := s.chores.eraseIdx n }.step (.operate t c.drop))
  /-- the driver leaves while the request waits in the queue -/
  | cleared {l : LoopId} {c : Handle} {token : Cancellation.Token} {i : PromiseId}
      {before after : List Request} (phase : (s.process.loop l).driver.phase = .closing)
      (waiting : (s.process.loop l).requests = before ++ .schedule c token i :: after) :
      Refuses s (.drive l) c i .eventLoopClosed
        (({ s with process := s.process.changeLoop l fun x => { x with requests := before ++ after } }.step
          (.operate (Process.driverThread l) c.drop)).step (.drive l))
  /-- the driver is to stop, or the signal of the request has been raised -/
  | rejected {l : LoopId} {c : Handle} {token : Cancellation.Token} {i : PromiseId}
      (phase : (s.process.loop l).driver.phase = .starting c token i)
      (why : (s.process.loop l).driver.stopping = true ∨ token.isRequested s.process.signals = true) :
      Refuses s (.drive l) c i .canceled
        ({ s with process := s.process.emptyHanded l }.step (.operate (Process.driverThread l) c.drop))

theorem Refuses.waits {rest : System} (h : s.Refuses a c i e rest) : s.board.Waits c i := by
  cases h with
  | closed chore =>
    exact .pending (List.mem_filterMap.mpr ⟨_, List.mem_of_getElem? chore, rfl⟩)
  | @cleared l c token i before after phase waiting =>
    have mem : .schedule c token i ∈ (s.process.loop l).requests := by simp [waiting]
    exact .queued mem
  | rejected phase => exact .inHand phase

/-- Nobody has been told anything of a request that waits, and no driver has a task for it. -/
theorem Sound.waits_untold (sound : s.Sound) (waits : s.board.Waits c i) : s.board.Untold i := by
  cases waits with
  | pending h => exact sound.untold_pending h rfl
  | queued h => exact sound.untold_waiting h rfl
  | @inHand l token phase => exact sound.untold_inHand (l := l) (congrArg Phase.promise? phase)

/-- Whether an action tells a caller that its request has been refused: its task has not been started,
and the error is not what setting up the task has failed by. -/
structure TurnsAway (s : System) (a : Action) (i : PromiseId) (e : Error) : Prop where
  untold : (s.process.promise i).stage = .submitted
  told : ((s.step a).process.promise i).stage = .settled (.error e)
  untried : ∀ l, .reject l i .failed ∉ s.deeds a

/-- A thread that tells a caller something has been to push its request into a queue that is closed. -/
theorem Sound.pushed (sound : s.Sound) {n : Nat} {o : Bridge.Outcome} (before : s.board.Unsettled i)
    (told : ((s.step (.proceed n)).process.promise i).stage = .settled o) : ∃ t l c token,
      s.chores[n]? = some (t, .enqueue l (.schedule c token i)) ∧
      (s.process.loop l).notifier = none ∧ o = .error .eventLoopClosed := by
  -- one request less is to be pushed, and no queue has taken it
  have given : (s.step (.proceed n)).board.pending.length < s.board.pending.length ∧
      s.deeds (.proceed n) = [] := by
    have h := act sound (.proceed n)
    have after := board_settled told
    generalize (s.step (.proceed n)).board = b at h after ⊢
    generalize s.deeds (.proceed n) = ds at h ⊢
    cases h with
    | refuse m k r pre post hp =>
      rw [Board.answer_pending, hp]
      simp
    | _ => exact absurd after (before o)
  cases hn : s.chores[n]? with
  | none =>
    simp only [System.step, hn] at told
    exact absurd (board_settled told) (before o)
  | some tc =>
    obtain ⟨t, chore⟩ := tc
    have errand (other : EmbeddedPython.pushes [(t, chore)] = []) : False := by
      obtain ⟨first, last, pending, left⟩ := pushes_eraseIdx hn
      have fewer := given.1
      rw [step_proceed hn, board_after, show s.board.pending = _ from pending, other] at fewer
      simp [Process.board, left] at fewer
    cases chore with
    | enqueue l r =>
      have refused : s.process.takes t l = false := by simpa [deeds, hn] using given.2
      have closed : (s.process.loop l).notifier = none := by
        rw [sound.takes_eq] at refused
        exact Option.not_isSome_iff_eq_none.mp (Bool.eq_false_iff.mp refused)
      rw [step_refused hn closed, (tell_idle t _ _).promise] at told
      cases r with
      | schedule c token j =>
        simp only [Process.answer, Request.promise?, Process.settle, Process.promise_changePromise] at told
        split at told
        · next hi =>
          cases told
          exact ⟨t, l, c, token, by rw [hi.1], closed, rfl⟩
        · exact absurd (board_settled told) (before o)
      | _ => exact absurd (board_settled told) (before o)
    | _ => exact (errand rfl).elim

/-- Whoever is told that its request is refused is told so in one of these ways. -/
theorem Sound.refuses (sound : s.Sound) (away : s.TurnsAway a i e) :
    ∃ c rest, s.Refuses a c i e rest := by
  obtain ⟨untold, told, untried⟩ := away
  have before : s.board.Unsettled i := fun o ho => nomatch untold.symm.trans (promise_stage ho)
  have tracked {l : LoopId} {x : Tracked} (hx : x ∈ (s.board.desk l).tasks) : x.promise ≠ i := by
    rintro rfl
    cases untold.symm.trans (promise_stage (sound.stage_tracked hx))
  have resolves : s.Resolves a i (.error e) := (act sound a).resolves before (board_settled told)
  generalize ho : (Except.error e : Bridge.Outcome) = o at resolves
  cases resolves with
  | refused n =>
    cases ho
    obtain ⟨t, l, c, token, chore, closed, -⟩ := sound.pushed before told
    exact ⟨c, _, .closed chore closed⟩
  | @cleared l r i phase waiting hi =>
    cases ho
    cases r with
    | schedule c token j =>
      cases hi
      obtain ⟨pre, post, waiting⟩ := List.append_of_mem waiting
      exact ⟨c, _, .cleared phase waiting⟩
    | _ => cases hi
  | @rejected l c token i phase why =>
    cases ho
    exact ⟨c, _, .rejected phase why⟩
  | @unprepared l c token i e' phase failed =>
    cases ho
    have h := act sound (.drive l)
    have after := board_settled told
    generalize (s.step (.drive l)).board = b at h after
    generalize s.deeds (.drive l) = ds at h untried
    cases h with
    | reject k c' token' j why phase' h =>
      cases phase.symm.trans phase'
      rcases Board.tell_stage_settled s.board after with told | ⟨same, -⟩
      · exact absurd told (before _)
      · cases same
        exact ⟨c, _, .rejected phase (h.imp And.right fun h => h.2.2)⟩
    | unprepared k c' token' j e'' phase' =>
      cases phase.symm.trans phase'
      exact absurd List.mem_cons_self (untried l)
    | quiet _ _ _ other | openLoop _ _ other => exact absurd rfl (other l)
    | wait | start | go => exact absurd after (before _)
    | fail _ e' hf => rcases hf.phase with hp | ⟨left, hp⟩ <;> cases phase.symm.trans hp
    | _ => cases phase.symm.trans ‹_›
  | failed h hx => exact absurd rfl (tracked hx)
  | concluded phase here h => exact absurd rfl (tracked (List.mem_of_getElem? here))

/-- A driver that is not to start a task lets go of its request. -/
theorem step_rejected {token : Cancellation.Token}
    (phase : (s.process.loop l).driver.phase = .starting c token i)
    (why : (s.process.loop l).driver.stopping = true ∨ token.isRequested s.process.signals = true) :
    (s.step (.drive l)).process = (refuse l c i .canceled s.process).2 := by
  rw [step_drive, step_starting phase, startNext_of_stays (by simpa using why)]

/-- Whoever's request is refused in one of these ways is told so. -/
theorem Refuses.turnsAway (sound : s.Sound) {rest : System} (h : s.Refuses a c i e rest) :
    s.TurnsAway a i e := by
  have untold := sound.waits_untold h.waits
  refine ⟨stage_submitted untold, ?_, fun k => ?_⟩
  · cases h with
    | closed chore closed => exact sound.turnsAway closed chore rfl
    | cleared phase waiting =>
      exact sound.clears phase (waiting ▸ List.mem_append_right _ List.mem_cons_self) rfl
    | @rejected l c token i phase why =>
      have hand : (s.board.desk l).phase.promise? = some i := congrArg Phase.promise? phase
      obtain ⟨stage, made⟩ := Option.isSome_iff_exists.mp (sound.made_inHand hand)
      refine stage_of_board ?_
      show ((s.step (.drive l)).process.board _).stage i = _
      rw [step_rejected phase why, refuse_board _ (Process.lt_size_of_phase (by simp [phase])),
        Board.change_stage, Board.tell_stage_self]
      exact congrArg (Option.map _) made
  · cases h with
    | closed chore closed => simp [deeds, chore, Process.takes, closed]
    | cleared phase waiting => simp [deeds, Process.deeds, phase]
    | @rejected l c token i phase why =>
      have hl : l < s.process.loops.size := Process.lt_size_of_phase (by simp [phase])
      have draining : ((Bridge.step l s.process).2.loop l).driver.phase = .draining := by
        rw [← step_drive, step_rejected phase why]
        exact refuse_phase hl c i _
      rw [show s.deeds (.drive l) = s.process.deeds l from rfl, reject_deed phase draining]
      rcases why with why | why <;> cases hst : (s.process.loop l).driver.stopping <;>
        simp_all [Driver.refusal]

/-! ## What a refusal comes to -/

/-- Nothing is asked of any object to refuse a request. -/
theorem Refuses.resembles {rest : System} (h : s.Refuses a c i e rest) :
    s.process.host.Resembles (s.step a).process.host := by
  cases h with
  | @closed n t l c token i chore closed =>
    rw [step_refused chore closed]
    exact Mute.tell (drop_mute c) t (s.process.answer (.schedule c token i) .eventLoopClosed)
  | cleared phase waiting =>
    rw [step_drive, step_closing phase]
    exact leave_mute _ s.process
  | rejected phase why =>
    rw [step_rejected phase why]
    exact Mute.tell (drop_mute _) _ (s.process.reject _ _ _)

theorem SameBut.host {s' : System} (h : SameBut i s s') : s'.process.host = s.process.host := by
  obtain ⟨q, chores⟩ := s'
  obtain ⟨⟨journal, alike⟩, -⟩ := h
  rfl

theorem SameBut.promise {s' : System} (h : SameBut i s s') {j : PromiseId} (hj : j ≠ i) :
    s'.process.promise j = s.process.promise j := by
  obtain ⟨q, chores⟩ := s'
  obtain ⟨⟨journal, alike⟩, -⟩ := h
  exact alike.promise hj

/-- A program makes a coroutine, which is submitted with a token that has been cancelled. The driver
has taken the request out of its queue. -/
def cancelled : List Action :=
  [.start 0 Options.default, .proceed 0] ++ [.openLoop 0 0, .operate 0 makeCoroutines, .newSource,
    .cancel 0 0, .submit 0 0 (Handle.adopt (.cell 11)) ⟨some 0⟩, .proceed 0, .proceed 0] ++
  List.replicate 5 (.drive 0)

end System

end EmbeddedPython
