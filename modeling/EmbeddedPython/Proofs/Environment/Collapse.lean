import EmbeddedPython.Proofs.Environment.Cancelling
import EmbeddedPython.Proofs.Environment.Telling
import EmbeddedPython.Proofs.Environment.Waking
import EmbeddedPython.Proofs.Handle.Applying
import EmbeddedPython.Proofs.Host.Translating

/-
  The collapse of a loop

  The call that runs the loop of the interpreter can fail: the loop has been
  closed, or something that it runs raises an exception that it lets through.
  Then the driver handles no request and looks at no task any more. It fails
  every task by what the call has failed by and leaves, and whoever waits for
  something else from the loop learns that it is closed.
-/

namespace EmbeddedPython

open Activity Bridge

/-! ## What the failure of a call says -/

/-- What the interpreter is asked for fails by what it raises, translated. -/
theorem Activity.ask_told {α : Type} {refs : List Ref} {body : Eval α} {t : ThreadId} {p : Process}
    {e : Error} (alive : p.host.lock.alive = true)
    (failed : (Activity.ask t (Op.ask refs body) p).1 = .error e) :
    (∃ r m n err, e = .python err ∧ body.run p.host.memory = (.error r, m) ∧
      err.Describes ⟨m.classOf r, some r⟩ m n) ∨ e = .eventLoopClosed := by
  rw [ask_fst, Op.ask, Op.perform_bind] at failed
  rcases Op.enter_cases refs body t p.host with ⟨b, k, entered, -⟩ |
    ⟨r, k, entered, lock, run, pending, -⟩
  · rw [entered] at failed
    cases failed
  · have admits : k.Admits t := .inl ((congrArg Lock.alive lock).trans alive)
    have told := (Op.fetchError_translates Op.translationDepth).describes admits pending
    rw [entered] at failed
    simp only [Op.answered, Handle.answeredBy, Op.perform_bind, Op.translate] at failed
    generalize (Op.fetchError Op.translationDepth).perform t k = b at told failed
    cases told with
    | given clear holds =>
      obtain ⟨err, rfl, describes⟩ := holds
      cases failed
      exact .inl ⟨r, _, _, err, rfl, run, describes⟩
    | exhausted =>
      cases failed
      exact .inr rfl

namespace Process

/-- What the error says by which the call that runs the loop of the interpreter fails. -/
inductive Explains (p : Process) (l : LoopId) : Error → Prop where
  /-- the loop has been closed -/
  | closed (phase : (p.loop l).driver.phase = .entering) : Explains p l closedLoop
  /-- the exception that the loop has let through, translated -/
  | raised {left : Nat} {x : Loop} {entry : Scheduled} {rest : List Scheduled} {r : Ref}
      {m n : Memory} {err : PythonError}
      (phase : (p.loop l).driver.phase = .iterating (left + 1)) (here : p.pythonLoop? l = some x)
      (ready : x.ready = entry :: rest)
      (run : (Eval.runReady Machine.top (p.loopOf l) entry).run
        (p.changePythonLoop l fun x => { x with ready := rest }).host.memory = (.error r, m))
      (describes : err.Describes ⟨m.classOf r, some r⟩ m n) : Explains p l (.python err)
  /-- translating it has used up the stack -/
  | spent {left : Nat} (phase : (p.loop l).driver.phase = .iterating (left + 1)) :
      Explains p l .eventLoopClosed

theorem RunFails.explains {p : Process} {l : LoopId} {e : Error}
    (alive : p.host.lock.alive = true) (h : p.RunFails l e) : p.Explains l e := by
  cases h with
  | closed phase => exact .closed phase
  | raised phase raises =>
    obtain ⟨x, entry, rest, here, ready, failed⟩ := raises
    have alive' : (p.changePythonLoop l fun x => { x with ready := rest }).host.lock.alive = true := by
      simp only [changePythonLoop, here]
      exact alive
    rcases ask_told alive' failed with ⟨r, m, n, err, rfl, run, describes⟩ | rfl
    · exact .raised phase here ready run describes
    · exact .spent phase

end Process

/-! ## Who is told that a loop has failed -/

namespace Board

variable (b : Board) {i : PromiseId}

/-- Whoever waits for a task that is failed is told so. -/
theorem fail_stage_self {xs : List Tracked} {x : Tracked} (hx : x ∈ xs)
    (made : (b.stage x.promise).isSome = true) (e : Error) :
    (b.fail xs e).stage x.promise = some (.settled (.error e)) := by
  have told : ∀ xs : List Tracked, ∀ b : Board, (b.stage x.promise).isSome = true →
      (x ∈ xs ∨ b.stage x.promise = some (.settled (.error e))) →
      (b.fail xs e).stage x.promise = some (.settled (.error e)) := by
    intro xs
    induction xs with
    | nil => exact fun b _ h => h.resolve_left List.not_mem_nil
    | cons y ys ih =>
      intro b made h
      refine ih ((b.giveUp y.registration).tell y.promise (.settled (.error e))) ?_ ?_
      · by_cases hy : x.promise = y.promise
        · rw [hy, tell_stage_self, Option.isSome_map]
          exact hy ▸ made
        · rw [tell_stage_of_ne _ hy]
          exact made
      · by_cases hy : x.promise = y.promise
        · refine .inr ?_
          obtain ⟨stage, hs⟩ := Option.isSome_iff_exists.mp made
          rw [hy, tell_stage_self, show (b.giveUp y.registration).stage y.promise = some stage from
            hy ▸ hs]
          rfl
        · rw [tell_stage_of_ne _ hy]
          exact h.imp_left fun h => (List.mem_cons.mp h).resolve_left fun he => hy (he ▸ rfl)
  exact told xs b made (.inl hx)

/-- Whoever waits for a request that is handed back is told that the queue is closed. -/
theorem hand_stage_self {rs : List Request} {r : Request} (hr : r ∈ rs) (hi : r.promise? = some i)
    (made : (b.stage i).isSome = true) :
    (b.hand rs).stage i = some (.settled (.error .eventLoopClosed)) := by
  have told : ∀ rs : List Request, ∀ b : Board, (b.stage i).isSome = true →
      (r ∈ rs ∨ b.stage i = some (.settled (.error .eventLoopClosed))) →
      (b.hand rs).stage i = some (.settled (.error .eventLoopClosed)) := by
    intro rs
    induction rs with
    | nil => exact fun b _ h => h.resolve_left List.not_mem_nil
    | cons r' rs ih =>
      intro b made h
      by_cases hi' : r'.promise? = some i
      · obtain ⟨stage, hs⟩ := Option.isSome_iff_exists.mp made
        have now : (b.answer r' .eventLoopClosed).stage i =
            some (.settled (.error .eventLoopClosed)) := by
          simp only [answer, hi']
          rw [tell_stage_self, hs]
          rfl
        exact ih _ (now ▸ rfl) (.inr now)
      · have same := answer_stage_of_ne b hi' .eventLoopClosed
        refine ih _ (same ▸ made) ?_
        rw [same]
        exact h.imp_left fun h => (List.mem_cons.mp h).resolve_left fun he => hi' (by rwa [← he])
  exact told rs b made (.inl hr)

end Board

/-! ## The lease of a driver that leaves -/

namespace Bridge

open Process

theorem clearAll_steady (t : ThreadId) (l : LoopId) (e : Error) (rs : List Request) (p : Process) :
    Steady p (rs.forM (fun _ => clearNext t l e) p).2 := by
  induction rs generalizing p with
  | nil => exact .refl p
  | cons r rs ih =>
    rw [run_forM_cons]
    refine .trans ?_ (ih _)
    simp only [clearNext, run_get_bind]
    cases (p.loop l).requests with
    | nil => exact .refl p
    | cons r' _ => exact (Steady.clear p l e).trans (.of_idles (tell_idle t r'.drop _))

/-- A queue is closed without the driver being counted any less. -/
theorem close_steady (t : ThreadId) (l : LoopId) (e : Error) (p : Process) :
    Steady p (close t l e p).2 := by
  let q := p.changeLoop l fun x => { x with notifier := none }
  have shut : Steady p q := .changeLoop rfl .rfl
  cases hn : (p.loop l).notifier with
  | none =>
    have same : (close t l e p).2 = ((p.loop l).requests.forM (fun _ => clearNext t l e) q).2 := by
      simp [close, hn, q, modifyLoop]
    rw [same]
    exact shut.trans (clearAll_steady t l e _ q)
  | some n =>
    have same : (close t l e p).2 = ((p.loop l).requests.forM (fun _ => clearNext t l e)
        (tell t n.stop.drop (tell t n.callSoon.drop q).2).2).2 := by
      simp only [close, run_get_bind, hn]
      rfl
    rw [same]
    have dropped := (tell_idle t n.callSoon.drop q).trans (tell_idle t n.stop.drop _)
    exact (shut.trans (.of_idles dropped)).trans (clearAll_steady t l e _ _)

/-- A driver that leaves is counted once less. -/
theorem leave_leases {p : Process} {l : LoopId} (custody : p.Custody) (live : p.Live l) :
    ((leave l p).2.environment (p.loop l).environment).leases + 1 =
      (p.environment (p.loop l).environment).leases := by
  obtain ⟨q, steady, left⟩ : ∃ q, Steady p q ∧ (leave l p).2 = q.exit l :=
    ⟨_, (close_steady (driverThread l) l .eventLoopClosed p).trans (.of_idles (tell_idle _ _ _)), rfl⟩
  have counted := custody.counted (p.loop l).environment
  have mine : l ∈ p.drivers (p.loop l).environment := mem_drivers.mpr ⟨rfl, live⟩
  have some : (q.environment (p.loop l).environment).leases ≠ 0 := by
    rw [steady.leases, counted]
    exact Finset.card_ne_zero_of_mem mine
  rw [left, Process.exit, environment_changeEnvironment, (steady.loop l).1,
    if_pos ⟨rfl, lt_size_of_leases some⟩, ← steady.leases]
  exact Nat.sub_add_cancel (Nat.pos_of_ne_zero some)

/-- The end of the disposal of a loop whose driver has left is what closing the loop of the
interpreter comes to. -/
theorem endDispose_exited (t : ThreadId) {l : LoopId} {p : Process} (ledger : p.LedgerAt l)
    (phase : (p.loop l).driver.phase = .exited) : endDispose t l p =
      ask t (Op.guarded do (← (p.loop l).object.callMethod "close" []).drop) p := by
  obtain ⟨-, requests, notifier⟩ := ledger.exited phase
  have same : p.changeLoop l (fun x => { x with notifier := none }) = p := by
    have loops : p.loops.modify l (fun x => { x with notifier := none }) = p.loops := by
      refine Array.ext_getElem? fun k => ?_
      rw [Array.getElem?_modify]
      split
      · next hk =>
        subst hk
        rcases hx : p.loops[l]? with _ | x
        · rfl
        · have here : p.loop l = x := by
            rw [Process.loop, Array.getD_eq_getD_getElem?, hx]
            rfl
          rw [here] at notifier
          rw [Option.map_some, ← notifier]
      · rfl
    rw [changeLoop, loops]
  have closed : (Bridge.close t l .eventLoopClosed p) = ((), p) := by
    simp only [Bridge.close, run_get_bind, notifier, requests]
    rw [run_bind, show modifyLoop l (fun x => { x with notifier := none }) p = (⟨⟩, p) from
      congrArg (Prod.mk _) same]
    rfl
  simp only [endDispose, run_get_bind, if_pos phase]
  rw [run_bind, closed]

end Bridge

/-! ## Submitting to a loop that is left -/

namespace Bridge

open Process

/-- An awaitable with a live handle is taken by a loop that is not disposed of, which makes the promise
of its outcome. -/
theorem prepare_awaitable (t : ThreadId) {l : LoopId} {awaitable : Handle} (token : Cancellation.Token)
    {p : Process} (alive : p.host.lock.alive = true) (opened : (p.loop l).disposed = false)
    (live : awaitable.disposed = false)
    (awaits : (ask t (awaitable.hasAttr "__await__") p).1 = .ok true) : ∃ k : Host,
      prepare t l awaitable token p =
        (.ok (.schedule (Handle.adopt awaitable.ref) token p.promises.size, p.promises.size),
          { p with host := k, promises := p.promises.push ⟨.submitted, true⟩ }) ∧
      k.memory = (ask t (awaitable.hasAttr "__await__") p).2.host.memory := by
  obtain ⟨i, asked, alive'⟩ : ∃ i, ask t (awaitable.hasAttr "__await__") p =
      (.ok true, { p with host := i }) ∧ i.lock.alive = true := by
    generalize hb : (awaitable.hasAttr "__await__").perform t p.host = b at *
    have still := Op.alive_perform (awaitable.hasAttr "__await__") t alive
    rw [hb] at still
    obtain ⟨r, i⟩ := b
    simp only [ask, hb] at awaits ⊢
    rcases r with (e | _ | _) | a <;> cases awaits
    exact ⟨i, rfl, still⟩
  obtain ⟨k, cloned, same, -⟩ := System.ask_returns (p := { p with host := i }) t
    (Handle.clone_returns live i.memory) alive'
  exact ⟨k, prepare_of_asked opened asked cloned, by rw [asked, same]⟩

/-- A queue that is closed takes nothing. -/
theorem enqueue_closed (t : ThreadId) {l : LoopId} (r : Request) {p : Process}
    (closed : (p.loop l).notifier = none) : enqueue t l r p = (false, p) := by
  rcases push_cases t l r p with ⟨refused, -⟩ | ⟨w, i, j, -, isOpen, -⟩
  · rw [enqueue, run_bind, refused]
    rfl
  · rw [closed] at isOpen
    cases isOpen

/-- A caller that submits an awaitable to a loop whose queue is closed is told so. -/
theorem submit_closed (t : ThreadId) {l : LoopId} {awaitable : Handle} (token : Cancellation.Token)
    {p : Process} (alive : p.host.lock.alive = true) (opened : (p.loop l).disposed = false)
    (closed : (p.loop l).notifier = none) (live : awaitable.disposed = false)
    (awaits : (ask t (awaitable.hasAttr "__await__") p).1 = .ok true) :
    (submit t l awaitable token p).1 = .error .eventLoopClosed := by
  obtain ⟨k, prepared, -⟩ := prepare_awaitable t token alive opened live awaits
  have refused := enqueue_closed t (l := l)
    (.schedule (Handle.adopt awaitable.ref) token p.promises.size)
    (p := { p with host := k, promises := p.promises.push ⟨.submitted, true⟩ }) closed
  rw [submit, run_bind, prepared]
  dsimp only
  rw [run_bind, refused]
  rfl

theorem prepare_disposed (t : ThreadId) (awaitable : Handle) (token : Cancellation.Token) {p : Process}
    {l : LoopId} (disposed : (p.loop l).disposed = true) :
    prepare t l awaitable token p = (.error .eventLoopDisposed, p) := by
  simp only [prepare, run_get_bind, disposed, if_true]
  rfl

theorem submit_disposed (t : ThreadId) {l : LoopId} (awaitable : Handle) (token : Cancellation.Token)
    {p : Process} (disposed : (p.loop l).disposed = true) :
    submit t l awaitable token p = (.error .eventLoopDisposed, p) := by
  rw [submit, run_bind, prepare_disposed t awaitable token disposed]
  rfl

end Bridge

/-! ## Loops that are left -/

/-- What waits in a queue stays there when a request is pushed. -/
theorem Bridge.Desk.Turn.adds {l : LoopId} {d d' : Desk} {ds : List Deed} (h : d.Turn l ds d')
    {r r' : Request} (pushed : .push l r ∈ ds) (hr : r' ∈ d.requests) : r' ∈ d'.requests := by
  cases h with
  | push r' => exact List.mem_append_left _ hr
  | overtaken c token x phase => exact List.mem_append_left _ hr
  | _ => simp at pushed

namespace System

variable {s : System} {l : LoopId} {i : PromiseId}

theorem Sound.steps (h : s.Sound) (later : List Action) : (later.foldl System.step s).Sound :=
  List.foldlRecOn later System.step h fun _ h a _ => h.step a

/-- What a caller has been told stands, whatever is done later. -/
theorem Sound.stands (h : s.Sound) {o : Bridge.Outcome}
    (told : (s.process.promise i).stage = .settled o) (later : List Action) :
    ((later.foldl System.step s).process.promise i).stage = .settled o := by
  induction later generalizing s with
  | nil => exact told
  | cons a later ih =>
    exact ih (h.step a) (stage_of_board ((act h a).settled h (board_settled told)))

/-- Whether the driver of a loop leaves or has left. -/
structure Leaves (s : System) (l : LoopId) : Prop where
  size : l < s.process.loops.size
  phase : (s.process.loop l).driver.phase = .closing ∨ (s.process.loop l).driver.phase = .exited

namespace Leaves

/-- A driver that leaves has no tasks. -/
theorem tasks (h : s.Leaves l) (sound : s.Sound) : (s.process.loop l).driver.tasks = [] :=
  h.phase.elim (sound.books.ledger l).closing fun phase => ((sound.books.ledger l).exited phase).1

/-- A driver that leaves by its next move closes the queue. -/
theorem exits (h : s.Leaves l) : ((s.step (.drive l)).process.loop l).driver.phase = .exited := by
  rw [step_drive]
  rcases h.phase with phase | phase
  · rw [step_closing phase]
    have board := leave_board [] phase
    generalize (leave l s.process).2 = q at board
    have desk : (q.loop l).desk.phase = _ := congrArg (fun b => (b.desk l).phase) board
    rw [Board.change_desk_self] at desk
    exact desk
  · simp only [Bridge.step, run_get_bind, phase]
    exact phase

theorem step (h : s.Leaves l) (sound : s.Sound) (a : Action) : (s.step a).Leaves l := by
  refine ⟨Nat.lt_of_lt_of_le h.size (s.size_le_step a), ?_⟩
  by_cases moves : a = .drive l
  · exact .inr (moves ▸ h.exits)
  · rcases (act sound a).elsewhere moves with ⟨same, -⟩ | ⟨-, -, new⟩
    · exact h.phase.imp same.trans same.trans
    · exact absurd new (Nat.ne_of_lt h.size)

/-- A driver that leaves does nothing else. -/
theorem steps (h : s.Leaves l) (sound : s.Sound) (later : List Action) :
    (later.foldl System.step s).Leaves l := by
  induction later generalizing s with
  | nil => exact h
  | cons a later ih => exact ih (h.step sound a) (sound.step a)

end Leaves

theorem isSome_stage (h : i < s.process.promises.size) : (s.board.stage i).isSome = true := by
  show (s.process.promises[i]?.map (·.stage)).isSome = true
  rw [Array.getElem?_eq_getElem h]
  rfl

/-- The promise of a request in a queue has been made. -/
theorem Sound.made_of_queued (h : s.Sound) {r : Request} (hr : r ∈ (s.process.loop l).requests)
    (hi : r.promise? = some i) : i < s.process.promises.size := by
  have waits : 1 ≤ (s.process.loop l).waiting i := isFor_le_sum hr hi
  have taken := (h.books.ledger l).taken i
  exact h.books.tickets.lt_size (l := l) (by omega)

/-- The promise of a request that is still to be pushed has been made. -/
theorem Sound.made_of_pending (h : s.Sound) {t : ThreadId} {r : Request}
    (hc : (t, .enqueue l r) ∈ s.chores) (hi : r.promise? = some i) :
    i < s.process.promises.size := by
  refine Nat.lt_of_not_le fun hn => ?_
  have none := h.books.tickets.made i hn
  have pending : 1 ≤ pendingIn s.chores i :=
    isFor_le_sum (f := fun c : ThreadId × Chore => c.2.promise?) hc hi
  omega

/-- When a driver leaves, whoever waits for a request in its queue is told that the queue is closed. -/
theorem Sound.clears (h : s.Sound) (phase : (s.process.loop l).driver.phase = .closing)
    {r : Request} (hr : r ∈ (s.process.loop l).requests) (hi : r.promise? = some i) :
    ((s.step (.drive l)).process.promise i).stage = .settled (.error .eventLoopClosed) := by
  refine stage_of_board ?_
  show ((s.step (.drive l)).process.board (pushes (s.chores ++ []))).stage i = _
  rw [step_drive, step_closing phase, leave_board _ phase, Board.change_stage]
  exact Board.hand_stage_self _ hr hi (isSome_stage (h.made_of_queued hr hi))

/-- A thread that is to push a request into a queue that is closed gives it up. -/
theorem step_refused {n : Nat} {t : ThreadId} {r : Request}
    (hn : s.chores[n]? = some (t, .enqueue l r)) (closed : (s.process.loop l).notifier = none) :
    s.step (.proceed n) =
      ⟨(tell t r.drop (s.process.answer r .eventLoopClosed)).2, s.chores.eraseIdx n⟩ := by
  rw [step_proceed hn, after, Chore.run, run_bind]
  rcases push_cases t l r s.process with ⟨refused, -⟩ | ⟨w, q, q', -, isOpen, -⟩
  · rw [refused]
    exact congrArg (System.mk _) (List.append_nil _)
  · rw [closed] at isOpen
    cases isOpen

/-- Whoever pushes a request into a queue that is closed is told so. -/
theorem Sound.turnsAway (h : s.Sound) (closed : (s.process.loop l).notifier = none) {n : Nat}
    {t : ThreadId} {r : Request} (hn : s.chores[n]? = some (t, .enqueue l r))
    (hi : r.promise? = some i) :
    ((s.step (.proceed n)).process.promise i).stage = .settled (.error .eventLoopClosed) := by
  have made := h.made_of_pending (List.mem_of_getElem? hn) hi
  rw [step_refused hn closed, (tell_idle t _ _).promise, Process.answer]
  simp only [hi]
  rw [Process.settle, Process.promise_changePromise, if_pos ⟨rfl, made⟩]

/-- A request in the queue of a driver that leaves stays there until the driver has left. -/
theorem Leaves.queued (h : s.Leaves l) (sound : s.Sound) {r : Request}
    (hr : r ∈ (s.process.loop l).requests) (hi : r.promise? = some i) (a : Action) :
    r ∈ ((s.step a).process.loop l).requests ∨
      ((s.step a).process.promise i).stage = .settled (.error .eventLoopClosed) := by
  by_cases moves : a = .drive l
  · subst moves
    rcases h.phase with phase | phase
    · exact .inr (sound.clears phase hr hi)
    · rw [((sound.books.ledger l).exited phase).2.1] at hr
      cases hr
  · have next := act sound a
    rcases next.elsewhere moves with ⟨-, -, same | ⟨n, r', -, pushed, -⟩⟩ | ⟨-, -, new⟩
    · exact .inl ((show ((s.step a).process.loop l).requests = _ from same) ▸ hr)
    · exact .inl ((next.turn l).adds (r := r') (mem_about.mpr ⟨pushed ▸ List.mem_cons_self, rfl⟩) hr)
    · exact absurd new (Nat.ne_of_lt h.size)

/-- Whoever waits for a request in the queue of a driver that leaves is told that the queue is closed
as soon as it has left. -/
theorem Leaves.tells (h : s.Leaves l) (sound : s.Sound) {r : Request}
    (hr : r ∈ (s.process.loop l).requests) (hi : r.promise? = some i) (later : List Action) :
    let s' := later.foldl System.step s
    ((s'.process.loop l).driver.phase = .closing ∧ r ∈ (s'.process.loop l).requests) ∨
      (s'.process.promise i).stage = .settled (.error .eventLoopClosed) := by
  have waits : ∀ later : List Action, let s' := later.foldl System.step s
      r ∈ (s'.process.loop l).requests ∨
        (s'.process.promise i).stage = .settled (.error .eventLoopClosed) := by
    intro later
    induction later using List.reverseRecOn with
    | nil => exact .inl hr
    | append_singleton later a ih =>
      rw [List.foldl_append]
      have sound' := sound.steps later
      rcases ih with waits | told
      · exact (h.steps sound later).queued sound' waits hi a
      · exact .inr (sound'.stands told [a])
  refine (waits later).imp_left fun mem => ⟨?_, mem⟩
  refine (h.steps sound later).phase.resolve_right fun exited => ?_
  rw [(((sound.steps later).books.ledger l).exited exited).2.1] at mem
  cases mem

/-- A call fails by one error. -/
theorem runFails_unique {e e' : Error} (h : s.process.RunFails l e) (h' : s.process.RunFails l e') :
    e = e' := by
  cases h with
  | closed phase =>
    cases h' with
    | closed => rfl
    | raised phase' => cases phase.symm.trans phase'
  | raised phase raises =>
    cases h' with
    | closed phase' => cases phase.symm.trans phase'
    | raised phase' raises' =>
      obtain ⟨x, entry, rest, here, ready, failed⟩ := raises
      obtain ⟨x', entry', rest', here', ready', failed'⟩ := raises'
      obtain rfl := Option.some.inj (here.symm.trans here')
      obtain ⟨rfl, rfl⟩ := List.cons.inj (ready.symm.trans ready')
      exact Except.error.inj (failed.symm.trans failed')

/-- What the failure of the call does on the board. -/
theorem Act.failed {ds : List Deed} {b : Board} (h : s.Act (.drive l) ds b) {e : Error}
    (fails : s.process.RunFails l e) : b = (s.board.fail (s.board.desk l).tasks e).change l fun d =>
      { d with tasks := [], phase := .closing } := by
  have here : (s.board.desk l).phase = .entering ∨
      ∃ left, (s.board.desk l).phase = .iterating (left + 1) := fails.phase
  cases h with
  | quiet _ _ _ other | openLoop _ _ other => exact absurd rfl (other l)
  | go _ next goes runs => exact absurd fails (runs e)
  | fail _ e' fails' => rw [runFails_unique fails fails']
  | wait _ hp => rcases hp with hp | hp <;> simp [hp] at here
  | _ => simp [*] at here

/-- When the call fails the driver leaves. -/
theorem Leaves.of_fails (sound : s.Sound) {e : Error} (fails : s.process.RunFails l e) :
    (s.step (.drive l)).Leaves l := by
  have live : (s.process.loop l).driver.phase ≠ .exited := fun exited => by
    rcases fails.phase with h | ⟨left, h⟩ <;> cases h.symm.trans exited
  exact ⟨Nat.lt_of_lt_of_le (Process.lt_size_of_phase live) (s.size_le_step _),
    .inl ((act sound (.drive l)).fails fails)⟩

/-- A driver that has left does not come back. -/
theorem Leaves.remains (h : s.Leaves l) (sound : s.Sound)
    (exited : (s.process.loop l).driver.phase = .exited) (a : Action) :
    ((s.step a).process.loop l).driver.phase = .exited := by
  by_cases moves : a = .drive l
  · exact moves ▸ h.exits
  · rcases (act sound a).elsewhere moves with ⟨same, -⟩ | ⟨-, -, new⟩
    · exact same.trans exited
    · exact absurd new (Nat.ne_of_lt h.size)

/-! ## Disposing of a loop that is left -/

/-- Whether an activity is made of moves of drivers, given ones among them. -/
def Drives {α : Type} (ls : List LoopId) (x : Activity α) : Prop :=
  ∀ s : System, ∃ moved : List LoopId, ls ⊆ moved ∧
    (x s.process).2 = ((moved.map Action.drive).foldl System.step s).process

namespace Drives

variable {α β : Type} {ls ks : List LoopId}

theorem pure (a : α) : Drives [] (Pure.pure a) := fun _ => ⟨[], List.nil_subset _, rfl⟩

theorem bind {x : Activity α} {f : α → Activity β} (hx : Drives ls x) (hf : ∀ a, Drives ks (f a)) :
    Drives (ls ++ ks) (x >>= f) := by
  intro s
  obtain ⟨first, mem, same⟩ := hx s
  obtain ⟨second, mem', same'⟩ := hf (x s.process).1 (((first.map Action.drive)).foldl System.step s)
  refine ⟨first ++ second, ?_, ?_⟩
  · exact List.append_subset.mpr
      ⟨List.Subset.trans mem (List.subset_append_left _ _),
        List.Subset.trans mem' (List.subset_append_right _ _)⟩
  · rw [run_bind, List.map_append, List.foldl_append, ← same', ← same]

theorem step (l : LoopId) : Drives [l] (Bridge.step l) := fun _ => ⟨[l], List.Subset.refl _, rfl⟩

theorem runDriver (l : LoopId) (fuel : Nat) : Drives [] (runDriver l fuel) := by
  induction fuel with
  | zero => exact .pure ()
  | succ fuel ih =>
    have moves : Drives ([l] ++ []) (Bridge.runDriver l (fuel + 1)) := by
      refine .bind (.step l) fun moved => ?_
      cases moved with
      | true => exact ih
      | false => exact .pure ()
    exact fun s => (moves s).imp fun _ h => ⟨List.nil_subset _, h.2⟩

/-- In one round every driver moves. -/
theorem round (ls : List LoopId) (moved : Bool) : Drives ls (ls.foldlM (fun moved l => do
    let now ← Bridge.step l
    Bridge.runDriver l moveBound
    Pure.pure (moved || now)) moved) := by
  induction ls generalizing moved with
  | nil => exact .pure moved
  | cons l ls ih =>
    rw [List.foldlM_cons]
    have first : Drives ([l] ++ ([] ++ [])) (do
        let now ← Bridge.step l
        Bridge.runDriver l moveBound
        Pure.pure (moved || now)) :=
      .bind (.step l) fun _ => .bind (.runDriver l moveBound) fun _ => .pure _
    exact .bind first fun moved => ih moved

end Drives

/-- While a thread waits for the drivers, each of them moves. -/
theorem runDrivers_drives (rounds : Nat) (s : System) : ∃ moved : List LoopId,
    (0 < rounds → ∀ l < s.process.loops.size, l ∈ moved) ∧
    (runDrivers rounds s.process).2 = ((moved.map Action.drive).foldl System.step s).process := by
  induction rounds generalizing s with
  | zero => exact ⟨[], fun h => absurd h (Nat.lt_irrefl 0), rfl⟩
  | succ rounds ih =>
    simp only [runDrivers, run_get_bind]
    obtain ⟨first, mem, same⟩ := Drives.round (List.range s.process.loops.size) false s
    rw [run_bind, same]
    have all (l : LoopId) (hl : l < s.process.loops.size) : l ∈ first := mem (List.mem_range.mpr hl)
    split
    · obtain ⟨second, -, same'⟩ := ih ((first.map Action.drive).foldl System.step s)
      refine ⟨first ++ second, fun _ l hl => List.mem_append_left _ (all l hl), ?_⟩
      rw [same', List.map_append, List.foldl_append]
    · exact ⟨first, fun _ => all, rfl⟩

/-- A driver that leaves has left when it has moved. -/
theorem Leaves.driven (h : s.Leaves l) (sound : s.Sound) {moved : List LoopId}
    (moves : (s.process.loop l).driver.phase = .exited ∨ l ∈ moved) :
    (((moved.map Action.drive).foldl System.step s).process.loop l).driver.phase = .exited := by
  induction moved generalizing s with
  | nil => exact moves.resolve_right List.not_mem_nil
  | cons k moved ih =>
    refine ih (h.step sound _) (sound.step _) ?_
    rcases moves with exited | mem
    · exact .inl (h.remains sound exited _)
    · rcases List.mem_cons.mp mem with rfl | mem
      · exact .inl h.exits
      · exact .inr mem

/-- What disposing of a loop begins with is a sequence of actions. -/
theorem beginDispose_steps (t : ThreadId) (l : LoopId) (s : System)
    (opened : (s.process.loop l).disposed = false) (alive : s.process.host.lock.alive = true) :
    ∃ actions : List Action, beginDispose t l s.process =
      (true, (actions.foldl System.step s).process) := by
  let marked := s.process.changeLoop l fun x => { x with disposed := true }
  have marks : markDisposed l s.process = (true, marked) := by
    simp only [markDisposed, run_get_bind, opened, Bool.false_eq_true, if_false]
    rw [run_bind]
    exact congrArg (fun b => (b, marked)) alive
  have begins : s.step (.dispose t l) =
      ⟨marked, s.chores ++ [(t, .enqueue l .stop), (t, .endDispose l false)]⟩ := by
    have left : disposal t l false s.process =
        ([(t, .enqueue l .stop), (t, .endDispose l false)], marked) := by
      rw [disposal, run_bind, marks]
      rfl
    show after s.chores (disposal t l false) s.process = _
    rw [after, left]
  have here : (s.chores ++ [(t, Chore.enqueue l .stop), (t, .endDispose l false)])[s.chores.length]? =
      some (t, .enqueue l .stop) := by simp
  have first : beginDispose t l s.process = (true, (enqueue t l .stop marked).2) := by
    rw [beginDispose, run_bind, marks]
    rfl
  rw [first]
  rcases push_cases t l .stop marked with ⟨refused, -⟩ | ⟨w, q, q', pushed, -⟩
  · refine ⟨[.dispose t l, .proceed s.chores.length], ?_⟩
    rw [List.foldl_cons, begins, List.foldl_cons, List.foldl_nil, System.step]
    simp only [here]
    rw [enqueue, run_bind, refused, after, Chore.run, run_bind, refused]
    rfl
  · have queued : (s.step (.dispose t l)).step (.proceed s.chores.length) =
        ⟨q', s.chores ++ [(t, .endDispose l false)] ++ (w.map fun n => (t, Chore.wake n)).toList⟩ := by
      have left : (s.chores ++ [(t, Chore.enqueue l .stop), (t, .endDispose l false)]).eraseIdx
          s.chores.length = s.chores ++ [(t, .endDispose l false)] := by
        rw [List.eraseIdx_append_of_length_le (Nat.le_refl _), Nat.sub_self]
        rfl
      rw [begins, System.step]
      simp only [here, left]
      rw [after, Chore.run, run_bind, pushed]
      cases w <;> rfl
    cases w with
    | none =>
      refine ⟨[.dispose t l, .proceed s.chores.length], ?_⟩
      rw [List.foldl_cons, List.foldl_cons, List.foldl_nil, queued, enqueue, run_bind, pushed]
      rfl
    | some n =>
      have next : (s.chores ++ [(t, Chore.endDispose l false)] ++ [(t, .wake n)])[s.chores.length + 1]? =
          some (t, .wake n) := by simp
      refine ⟨[.dispose t l, .proceed s.chores.length, .proceed (s.chores.length + 1)], ?_⟩
      rw [List.foldl_cons, List.foldl_cons, List.foldl_cons, List.foldl_nil, queued, enqueue, run_bind,
        pushed, System.step]
      simp only [Option.map_some, Option.toList_some, next]
      rfl

/-- Disposing of a loop that is left, for the first time, comes to what closing the loop of the
interpreter comes to: its driver does not have to be given up. -/
theorem Leaves.dispose (h : s.Leaves l) (sound : s.Sound) (t : ThreadId)
    (opened : (s.process.loop l).disposed = false) (alive : s.process.host.lock.alive = true) :
    ∃ more : List Action, let p := (more.foldl System.step s).process
      (p.loop l).driver.phase = .exited ∧ Bridge.dispose t l s.process =
        ask t (Op.guarded do (← (p.loop l).object.callMethod "close" []).drop) p := by
  obtain ⟨first, begins⟩ := beginDispose_steps t l s opened alive
  have left := h.steps sound first
  have sound' := sound.steps first
  obtain ⟨moved, all, moves⟩ := runDrivers_drives moveBound (first.foldl System.step s)
  have exited := left.driven sound' (.inr (all (by decide) l left.size))
  have sound'' := sound'.steps (moved.map .drive)
  refine ⟨first ++ moved.map .drive, ?_⟩
  rw [List.foldl_append]
  refine ⟨exited, ?_⟩
  rw [Bridge.dispose, run_bind, begins]
  simp only [if_true]
  rw [run_bind, moves]
  exact endDispose_exited t (sound''.books.ledger l) exited

/-! ## The law of collapsing -/

/-- What has come of a loop whose call has failed by an error in a state, in a later state. -/
structure Collapsed (s : System) (l : LoopId) (e : Error) (s' : System) : Prop where
  /-- whoever waits for a task that was tracked then has been told the error -/
  failed : ∀ x ∈ (s.process.loop l).driver.tasks,
    (s'.process.promise x.promise).stage = .settled (.error e)
  untracked : (s'.process.loop l).driver.tasks = []
  /-- the driver handles no request and looks at no task -/
  leaves : (s'.process.loop l).driver.phase = .closing ∨ (s'.process.loop l).driver.phase = .exited
  /-- by its next move it leaves, and is counted once less -/
  exits : (s'.process.loop l).driver.phase = .closing →
    ((s'.step (.drive l)).process.loop l).driver.phase = .exited ∧
    ((s'.step (.drive l)).process.environment (s'.process.loop l).environment).leases + 1 =
      (s'.process.environment (s'.process.loop l).environment).leases
  /-- whoever waited for a request in the queue has been told that it is closed, unless the driver is
  still to leave -/
  queued : ∀ c token i, .schedule c token i ∈ (s.process.loop l).requests →
    ((s'.process.loop l).driver.phase = .closing ∧
      .schedule c token i ∈ (s'.process.loop l).requests) ∨
    (s'.process.promise i).stage = .settled (.error .eventLoopClosed)
  /-- so is whoever waits for a request that has been pushed since, when the driver leaves -/
  clears : (s'.process.loop l).driver.phase = .closing → ∀ c token i,
    .schedule c token i ∈ (s'.process.loop l).requests →
    ((s'.step (.drive l)).process.promise i).stage = .settled (.error .eventLoopClosed)
  /-- and whoever pushes one after that -/
  turnsAway : (s'.process.loop l).driver.phase = .exited → ∀ n t c token i,
    s'.chores[n]? = some (t, .enqueue l (.schedule c token i)) →
    ((s'.step (.proceed n)).process.promise i).stage = .settled (.error .eventLoopClosed)
  /-- a thread that submits an awaitable is told so as well, until the loop is disposed of -/
  closed : (s'.process.loop l).driver.phase = .exited → (s'.process.loop l).disposed = false →
    s'.process.host.lock.alive = true → ∀ t awaitable token, awaitable.disposed = false →
    (ask t (awaitable.hasAttr "__await__") s'.process).1 = .ok true →
    (submit t l awaitable token s'.process).1 = .error .eventLoopClosed
  /-- after that nothing is done about it -/
  disposed : (s'.process.loop l).disposed = true → ∀ t awaitable token,
    submit t l awaitable token s'.process = (.error .eventLoopDisposed, s'.process)
  /-- the first disposal comes to what closing the loop of the interpreter comes to, once the driver
  has left -/
  disposal : (s'.process.loop l).disposed = false → s'.process.host.lock.alive = true → ∀ t,
    ∃ more : List Action, let p := (more.foldl System.step s').process
      (p.loop l).driver.phase = .exited ∧ dispose t l s'.process =
        ask t (Op.guarded do (← (p.loop l).object.callMethod "close" []).drop) p

/-- When the call that runs the loop of the interpreter fails, whatever the driver has been doing, its
callers are told: those whose tasks are tracked the error, translated, and all others that the loop is
closed. The driver leaves, nothing waits on a signal for its tasks, and the loop of the interpreter is
closed when the loop is disposed of. -/
theorem collapse_told (attached : Bool) (before : List Action) {l : LoopId} {e : Error}
    (fails : (run attached before).process.RunFails l e) :
    (run attached before).process.Explains l e ∧ ∀ later,
      Collapsed (run attached before) l e (run attached (before ++ .drive l :: later)) ∧
      (SourcesMade 0 (before ++ .drive l :: later) → ∀ i,
        ∀ w ∈ (run attached (before ++ .drive l :: later)).board.waiting i, w.callback.loop ≠ l) := by
  have sound := sound_run attached before
  have live : ((run attached before).board.desk l).phase ≠ .exited := fun exited => by
    rcases fails.phase with h | ⟨left, h⟩ <;> cases h.symm.trans exited
  refine ⟨fails.explains (sound.alive live), fun later => ?_⟩
  have routed := routed_run attached (before ++ .drive l :: later)
  have same : run attached (before ++ .drive l :: later) =
      later.foldl step ((run attached before).step (.drive l)) := by
    rw [run_append, List.foldl_cons]
  rw [same] at routed ⊢
  generalize run attached before = s at fails sound routed ⊢
  have board := (act sound (.drive l)).failed fails
  have left := Leaves.of_fails sound fails
  have sound₀ := sound.step (.drive l)
  have sound' := sound₀.steps later
  have left' := left.steps sound₀ later
  have failed (x : Tracked) (hx : x ∈ (s.process.loop l).driver.tasks) :
      ((s.step (.drive l)).process.promise x.promise).stage = .settled (.error e) := by
    refine stage_of_board ?_
    rw [board, Board.change_stage]
    exact Board.fail_stage_self _ hx (by rw [sound.stage_tracked (l := l) hx]; rfl) e
  have queue : ((s.step (.drive l)).process.loop l).requests = (s.process.loop l).requests := by
    have desk : ((s.step (.drive l)).board.desk l).requests = _ :=
      congrArg (fun b => (b.desk l).requests) board
    rw [Board.change_desk_self, Board.fail_desk] at desk
    exact desk
  refine ⟨?_, fun made i w hw here => ?_⟩
  · exact {
      failed := fun x hx => sound₀.stands (failed x hx) later
      untracked := left'.tasks sound'
      leaves := left'.phase
      exits := fun phase => by
        refine ⟨left'.exits, ?_⟩
        rw [step_drive, step_closing phase]
        exact leave_leases sound'.ordered.custody fun exited => nomatch phase.symm.trans exited
      queued := fun c token i hr => left.tells sound₀ (queue ▸ hr) rfl later
      clears := fun phase c token i hr => sound'.clears phase hr rfl
      turnsAway := fun phase n t c token i hn =>
        sound'.turnsAway ((sound'.books.ledger l).exited phase).2.2 hn rfl
      closed := fun phase opened alive t awaitable token live awaits =>
        submit_closed t token alive opened ((sound'.books.ledger l).exited phase).2.2 live awaits
      disposed := fun disposed t awaitable token => submit_disposed t awaitable token disposed
      disposal := fun opened alive t => left'.dispose sound' t opened alive }
  · obtain ⟨x, hx, -⟩ := (routed made).listed.entered i w hw
    have none := sound'.armed_of_left (l := l) (left'.phase.elim .inr fun exited =>
      .inl (congrArg Option.isSome ((sound'.books.ledger l).exited exited).2.2))
    rw [here, show ((later.foldl step (s.step (.drive l))).board.desk l).armed = [] from none]
      at hx
    cases hx

/-- A driver that leaves its loop without having looked at its tasks meets a failure. -/
theorem Sound.fails (sound : s.Sound) {left : Nat}
    (phase : (s.process.loop l).driver.phase = .iterating left)
    (next : ((s.step (.drive l)).process.loop l).driver.phase = .closing) :
    ∃ e, s.process.RunFails l e := by
  have before : (s.board.desk l).phase ≠ .closing := fun h => nomatch phase.symm.trans h
  obtain ⟨-, ⟨n, other, -⟩ | fails⟩ := ((act sound (.drive l)).closing_iff before).mp next
  · cases phase.symm.trans other
  · exact fails

/-- An environment is started and opens a loop, two of the coroutines are started, and the third is
submitted just before the second exits. -/
def exiting : List Action :=
  [.start 0 Options.default, .proceed 0] ++ [.openLoop 0 0, .operate 0 makeCoroutines,
    .submit 0 0 (Handle.adopt (.cell 11)) ⟨none⟩, .submit 0 0 (Handle.adopt (.cell 12)) ⟨none⟩,
    .proceed 0, .proceed 0, .proceed 0, .proceed 0] ++ List.replicate 20 (.drive 0) ++
  [.submit 0 0 (Handle.adopt (.cell 13)) ⟨none⟩, .proceed 0]

theorem exiting_state : ((run true exiting).process.loop 0).driver.phase = .iterating 1 ∧
    ((run true exiting).process.loop 0).driver.tasks.length = 2 ∧
    ((run true exiting).process.loop 0).requests.length = 1 ∧
    (((run true exiting).step (.drive 0)).process.loop 0).driver.phase = .closing := by
  rw [exiting, List.append_assoc, List.append_assoc, run_started]
  decide +kernel

/-- The loop fails then, with two tasks that are tracked and a request in the queue. -/
theorem exit_told : ∃ e, (run true exiting).process.RunFails 0 e ∧
    (run true exiting).process.Explains 0 e ∧
    Collapsed (run true exiting) 0 e (run true (exiting ++ [Action.drive 0])) ∧
    ∀ i, ∀ w ∈ (run true (exiting ++ [Action.drive 0])).board.waiting i, w.callback.loop ≠ 0 := by
  obtain ⟨phase, -, -, closing⟩ := exiting_state
  obtain ⟨e, fails⟩ := (sound_run true exiting).fails phase closing
  have made : SourcesMade 0 (exiting ++ [Action.drive 0]) := by
    simp [SourcesMade, exiting, Action.Within, Cancellation.Token.Within]
  obtain ⟨explained, told⟩ := collapse_told true exiting fails
  exact ⟨e, fails, explained, (told []).1, (told []).2 made⟩

end System

end EmbeddedPython
