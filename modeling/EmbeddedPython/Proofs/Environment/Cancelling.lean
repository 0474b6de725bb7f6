import EmbeddedPython.Proofs.Environment.Opening
import EmbeddedPython.Proofs.Environment.Routing
import EmbeddedPython.Proofs.Environment.Stopping

/-
  The law of cancelling

  What holds after every action, from the first: a request to cancel goes to the
  loop of its task, once for each task, and only when the signal of the task has
  been raised; it is handled when the task is tracked, and it reaches no other
  task. A signal keeps no callback of a task that has no use for it.
-/

namespace EmbeddedPython

open Activity Bridge

namespace Action

/-- How many sources an action makes. -/
def sources : Action → Nat
  | newSource => 1
  | _ => 0

/-- Whether the token that a task is submitted with belongs to one of the first so many sources. -/
def Within (n : Nat) : Action → Prop
  | submit _ _ _ token => token.Within n
  | _ => True

end Action

/-- Whether tasks are submitted only with tokens of sources that have been made before, with so many
sources there at first. -/
def SourcesMade : Nat → List Action → Prop
  | _, [] => True
  | n, a :: actions => a.Within n ∧ SourcesMade (n + a.sources) actions

/-! ## What some steps do -/

namespace Bridge

open Process

variable {p : Process} {l : LoopId}

/-- A request to cancel is taken out and handled. -/
theorem step_cancel {id : TaskId} {rest : List Request} (phase : (p.loop l).driver.phase = .draining)
    (h : (p.loop l).requests = .cancel id :: rest) :
    (Bridge.step l p).2 = (cancelOne l id (p.drain l)).2 := by
  rw [step_draining phase]
  simp only [drainOne, run_get_bind, h]
  rfl

theorem tasks_drain {r : Request} {rest : List Request} (h : (p.loop l).requests = r :: rest) :
    ((p.drain l).loop l).driver.tasks = (p.loop l).driver.tasks := by
  rw [loop_drain h]

theorem host_drain (p : Process) (l : LoopId) : (p.drain l).host = p.host := by
  rw [Process.drain]
  split
  · rfl
  · next r _ _ => cases r <;> rfl

/-- The task with the number is asked to cancel. -/
theorem step_cancel_some {id : TaskId} {rest : List Request} {x : Tracked}
    (phase : (p.loop l).driver.phase = .draining)
    (h : (p.loop l).requests = .cancel id :: rest)
    (hx : (p.loop l).driver.tasks.find? (·.id == id) = some x) :
    (Bridge.step l p).2.host = x.asked (driverThread l) p.host := by
  rw [step_cancel phase h, ← host_drain p l, ← cancelTask_host]
  rw [← tasks_drain h] at hx
  simp only [cancelOne, run_get_bind, hx]
  rfl

/-- There is no task with the number, and nothing is done. -/
theorem step_cancel_none {id : TaskId} {rest : List Request}
    (phase : (p.loop l).driver.phase = .draining)
    (h : (p.loop l).requests = .cancel id :: rest)
    (hx : (p.loop l).driver.tasks.find? (·.id == id) = none) :
    (Bridge.step l p).2 = p.drain l := by
  rw [step_cancel phase h]
  rw [← tasks_drain h] at hx
  simp only [cancelOne, run_get_bind, hx]
  rfl

end Bridge

namespace System

variable {s : System} {l : LoopId}

theorem step_raise (s : System) (t : ThreadId) (i : Nat) : (s.step (.cancel t i)).chores = s.chores ++
    ((s.board.signal i).raise.1.map (·.callback)).map fun c =>
      (t, .enqueue c.loop (.cancel c.task)) :=
  rfl

theorem Sound.size_le (sound : s.Sound) (a : Action) :
    s.board.signals.size + a.sources ≤ (s.step a).board.signals.size := by
  cases a with
  | newSource => exact Nat.le_of_eq (Array.size_push _).symm
  | _ => exact (act sound _).size_le

/-- A task that is registered too late is asked to cancel by a request of its own driver. -/
theorem Act.overtakes {ds : List Deed} {b : Board} (h : s.Act (.drive l) ds b) {c : Handle}
    {token : Cancellation.Token} {x : Tracked}
    (phase : (s.board.desk l).phase = .registering c token x)
    (requested : token.isRequested s.board.signals = true) :
    ds = [.push l (.cancel x.id)] ∧
      (b.desk l).phase = .accepting c { x with registration := .nothing } := by
  cases h with
  | quiet _ _ _ other | openLoop _ _ other => exact absurd rfl (other l)
  | wait _ hp => simp [phase] at hp
  | fail _ e hf => rcases hf.phase with hp | ⟨left, hp⟩ <;> cases phase.symm.trans hp
  | go _ next goes => cases goes <;> simp_all
  | skip _ c' token' x' hp signal =>
    cases phase.symm.trans hp
    simp [Cancellation.Token.isRequested, signal] at requested
  | register _ c' token' x' i hp signal unraised =>
    cases phase.symm.trans hp
    simp only [Cancellation.Token.isRequested, signal] at requested
    exact absurd (unraised.symm.trans requested) Bool.false_ne_true
  | overtaken _ c' token' x' i hp =>
    cases phase.symm.trans hp
    rw [Board.change_desk_self]
    exact ⟨rfl, rfl⟩
  | _ => cases phase.symm.trans ‹_›

/-! ## The law of cancelling -/

/-- How the requests to cancel tasks are routed, with what has been done. -/
structure Routes (H : List Deed) (s : System) : Prop where
  /-- a task has been started on the loop that is to cancel it -/
  queued : ∀ l id, .cancel id ∈ (s.process.loop l).requests → ∃ i token, .start l id i token ∈ H
  /-- no other task, on any loop, has its number -/
  once : ∀ l k id i j token token', .start l id i token ∈ H → .start k id j token' ∈ H →
    l = k ∧ token = token'
  distinct : ∀ l, ((s.process.loop l).driver.tasks.map (·.id)).Nodup
  /-- the request is handled when the task is tracked or has been, and asks it to cancel if it is -/
  handled : ∀ l id rest, (s.process.loop l).driver.phase = .draining →
    (s.process.loop l).requests = .cancel id :: rest → .track l id ∈ H ∧
    (∀ x ∈ (s.process.loop l).driver.tasks, x.id = id →
      s.deeds (.drive l) = [.take l (.cancel id), .ask l id] ∧
      (s.step (.drive l)).process.host = x.asked (Process.driverThread l) s.process.host) ∧
    ((∀ x ∈ (s.process.loop l).driver.tasks, x.id ≠ id) → .finish l id ∈ H ∧
      s.deeds (.drive l) = [.take l (.cancel id)] ∧
      (s.step (.drive l)).process = s.process.drain l)
  /-- when a signal is raised, cancellation is requested for each task that was submitted with it,
  is there and has not been asked to cancel -/
  raises : ∀ t i, (s.board.signal i).raised = false → ∃ cs : List CancelCall,
    (s.step (.cancel t i)).chores =
      s.chores ++ cs.map (fun c => (t, .enqueue c.loop (.cancel c.task))) ∧
    cs.Nodup ∧ ∀ l id, ⟨l, id⟩ ∈ cs ↔ (∃ x ∈ (s.process.loop l).desk.armed, x.id = id) ∧
      (∃ j, .start l id j ⟨some i⟩ ∈ H) ∧ .ask l id ∉ H
  /-- and not again -/
  raised : ∀ t i, (s.board.signal i).raised = true → (s.step (.cancel t i)).chores = s.chores
  /-- so it is requested once if the signal has been raised, and never before -/
  requested : ∀ l, ∀ x ∈ (s.process.loop l).desk.armed, .ask l x.id ∉ H → ∀ j token,
    .start l x.id j token ∈ H → (calls H (pushes s.chores)).count ⟨l, x.id⟩ =
      if token.isRequested s.process.signals then 1 else 0
  single : ∀ c, (calls H (pushes s.chores)).count c ≤ 1
  /-- the request is on its way until it is handled -/
  due : ∀ l, ∀ x ∈ (s.process.loop l).desk.armed, .ask l x.id ∉ H → ∀ j token,
    .start l x.id j token ∈ H → token.isRequested s.process.signals = true →
    Due s.board ⟨l, x.id⟩
  /-- a task whose signal is raised while it is set up is tracked next, with the request behind -/
  overtaken : ∀ l c token x, (s.process.loop l).driver.phase = .registering c token x →
    token.isRequested s.process.signals = true →
    s.deeds (.drive l) = [.push l (.cancel x.id)] ∧
    ((s.step (.drive l)).process.loop l).driver.phase =
      .accepting c { x with registration := .nothing }
  /-- a request that has been handled has reached its task, unless that is finished -/
  reached : ∀ l id, .take l (.cancel id) ∈ H → .ask l id ∈ H ∨ .finish l id ∈ H
  /-- what waits on a signal belongs to a task that was submitted with it, is there, and is neither
  finished nor asked to cancel -/
  waiting : ∀ i, ∀ w ∈ s.board.waiting i,
    (∃ x ∈ (s.process.loop w.callback.loop).desk.armed, x.id = w.callback.task) ∧
    (∃ j, .start w.callback.loop w.callback.task j ⟨some i⟩ ∈ H) ∧
    .ask w.callback.loop w.callback.task ∉ H ∧ .finish w.callback.loop w.callback.task ∉ H

theorem routed_initial (attached : Bool) : Routed [] (initial attached).board := by
  have desk (l : LoopId) : (System.initial attached).board.desk l = Desk.vacant := by
    cases attached <;> rfl
  have vacant (l : LoopId) : ((System.initial attached).board.desk l).armed = [] := by
    rw [desk]
    rfl
  have waiting (i : Nat) : (System.initial attached).board.waiting i = [] := by
    cases attached <;> rfl
  have pending : (System.initial attached).board.pending = [] := rfl
  refine ⟨fun l => ?_, fun l => ?_, ⟨?_, fun l => ?_, fun l => ?_⟩, ?_, ?_, ?_, ?_, ?_, ?_, fun l => ?_⟩
  · exact desk l ▸ .initial l
  · exact desk l ▸ .initial l
  · simp [pending]
  · simp [desk, Desk.vacant]
  · simp [desk, Desk.vacant, Phase.token?]
  · constructor <;> simp [waiting, vacant]
  · simp
  · simp
  · simp [calls, pending, pendingCalls, pushedCalls]
  · simp [calls, pending, pendingCalls, pushedCalls]
  · simp [calls, pending, pendingCalls, pushedCalls]
  · simp [vacant]

theorem routed_from {actions : List Action} {s : System} {H : List Deed} {n : Nat}
    (sound : s.Sound) (h : Routed H s.board) (hn : n ≤ s.board.signals.size)
    (made : SourcesMade n actions) :
    Routed (H ++ s.historyFrom actions) (actions.foldl step s).board := by
  induction actions generalizing s H n with
  | nil =>
    rw [historyFrom, List.append_nil]
    exact h
  | cons a actions ih =>
    rw [historyFrom, ← List.append_assoc]
    refine ih (sound.step a) ((act sound a).routed sound h ?_)
      (Nat.le_trans (Nat.add_le_add_right hn _) (sound.size_le a)) made.2
    rintro t l awaitable token rfl
    exact made.1.mono hn

/-- The history, the tasks, the signals and the requests to cancel fit together after every run. -/
theorem routed_run (attached : Bool) (actions : List Action) (made : SourcesMade 0 actions) :
    Routed (history attached actions) (run attached actions).board :=
  routed_from (sound_run attached []) (routed_initial attached) (Nat.zero_le _) made

/-- After every run, with tokens of sources that have been made, the requests to cancel are routed
to their tasks. -/
theorem cancellation_routed (attached : Bool) (actions : List Action)
    (made : SourcesMade 0 actions) : Routes (history attached actions) (run attached actions) := by
  have routed := routed_run attached actions made
  have sound := sound_run attached actions
  generalize history attached actions = H at routed
  generalize run attached actions = s at routed sound
  have mem {l : LoopId} {id : TaskId} (h : Due s.board ⟨l, id⟩) :
      ⟨l, id⟩ ∈ calls H s.board.pending := h.mem_calls (routed.order l)
  have tracks (l : LoopId) := routed.tracks l
  have due (l : LoopId) (x : Tracked) (hx : x ∈ (s.board.desk l).armed) (ha : .ask l x.id ∉ H)
      (j : PromiseId) (token : Cancellation.Token) (hs : .start l x.id j token ∈ H)
      (hr : token.isRequested s.process.signals = true) : Due s.board ⟨l, x.id⟩ := by
    obtain ⟨_ | i⟩ := token
    · cases hr
    · exact (routed.standing l x hx).called i j hs ha hr
  have waiting (i : Nat) (w : Cancellation.Waiting CancelCall) (hw : w ∈ s.board.waiting i) :
      (∃ x ∈ (s.board.desk w.callback.loop).armed, x.id = w.callback.task) ∧
      (∃ j, .start w.callback.loop w.callback.task j ⟨some i⟩ ∈ H) ∧
      .ask w.callback.loop w.callback.task ∉ H ∧
      .finish w.callback.loop w.callback.task ∉ H := by
    obtain ⟨x, hx, hid, he⟩ := routed.listed.entered i w hw
    obtain ⟨j, hs⟩ := (routed.standing _ x hx).own i (by rw [he])
    rw [← hid]
    refine ⟨⟨x, hx, rfl⟩, ⟨j, hs⟩, fun ha => ?_, fun hf => ?_⟩
    · exact (tracks _).unasked hx (by rw [he]; nofun) (mem_about.mpr ⟨ha, rfl⟩)
    · exact (tracks _).unfinished hx (mem_about.mpr ⟨hf, rfl⟩)
  have raised_eq (i : Nat) := Cancellation.Signal.raise_eq (routed.listed.raised i)
  exact {
    queued := fun l id hr => by
      obtain ⟨i, j, hs, -⟩ := routed.meant _ (mem (.inr hr))
      exact ⟨j, _, hs⟩
    once := routed.once
    distinct := fun l => (tracks l).ids.sublist ((List.sublist_append_left _ _).map _)
    handled := fun l id rest phase hr => by
      have head : .cancel id ∈ (s.board.desk l).requests :=
        (show (s.board.desk l).requests = _ from hr) ▸ List.mem_cons_self
      have tracked : .track l id ∈ about l H :=
        (routed.known _ (mem (.inr head))).resolve_right fun ⟨c, x, hx, _⟩ => by
          cases phase.symm.trans hx
      refine ⟨(mem_about.mp tracked).1, fun x hx hid => ?_, fun gone => ?_⟩
      · have ids := (tracks l).ids.sublist ((List.sublist_append_left _ _).map _)
        have found : (s.process.loop l).driver.tasks.find? (·.id == id) = some x :=
          hid ▸ find_task ids hx
        refine ⟨?_, step_cancel_some phase hr found⟩
        simp [deeds, Process.deeds, phase, hr, Driver.asked, found, hid]
      · have lost : (s.process.loop l).driver.tasks.find? (·.id == id) = none :=
          List.find?_eq_none.mpr fun x hx => by simpa using gone x hx
        refine ⟨?_, ?_, step_cancel_none phase hr lost⟩
        · by_contra hf
          obtain ⟨x, hx, hid⟩ := ((tracks l).tasks id).mpr
            ⟨tracked, fun h => hf (mem_about.mp h).1⟩
          exact gone x hx hid
        · simp [deeds, Process.deeds, phase, hr, Driver.asked, lost]
    raises := fun t i unraised => by
      refine ⟨(s.board.waiting i).map (·.callback), ?_, routed.callbacks_nodup i, fun l id => ?_⟩
      · rw [step_raise, raised_eq]
        rfl
      · constructor
        · intro hc
          obtain ⟨w, hw, he⟩ := List.mem_map.mp hc
          have := waiting i w hw
          rw [he] at this
          exact ⟨this.1, this.2.1, this.2.2.1⟩
        · rintro ⟨⟨x, hx, rfl⟩, ⟨j, hs⟩, ha⟩
          obtain ⟨w, hw, he⟩ := (routed.standing l x hx).waits i j hs ha unraised
          exact List.mem_map.mpr ⟨w, hw, he⟩
    raised := fun t i hr => by
      have none : (s.board.signal i).waiting = [] := routed.listed.raised i hr
      rw [step_raise, raised_eq, none]
      exact List.append_nil _
    requested := fun l x hx ha j token hs => by
      cases hr : token.isRequested s.process.signals with
      | true => exact List.count_eq_one_of_mem routed.single (mem (due l x hx ha j token hs hr))
      | false =>
        refine List.count_eq_zero.mpr fun hc => ?_
        obtain ⟨i, j', hs', raised⟩ := routed.meant _ hc
        rw [(routed.once _ _ _ _ _ _ _ hs hs').2] at hr
        exact Bool.false_ne_true (hr.symm.trans raised)
    single := fun c => List.nodup_iff_count_le_one.mp routed.single c
    due := due
    overtaken := fun l c token x phase requested => (act sound (.drive l)).overtakes phase requested
    reached := fun l id ht => by
      have := (tracks l).handled id (mem_about.mpr ⟨ht, rfl⟩)
      exact this.imp (fun h => (mem_about.mp h).1) fun h => (mem_about.mp h).1
    waiting := waiting }

/-- A program makes a coroutine, which is submitted with a token. The token is cancelled when the
driver has set its task up and is about to register for the cancellation. -/
def cancelEarly : List Action :=
  [.start 0 Options.default, .proceed 0] ++ [.openLoop 0 0, .operate 0 makeCoroutines, .newSource,
    .submit 0 0 (Handle.adopt (.cell 11)) ⟨some 0⟩, .proceed 0, .proceed 0] ++
  List.replicate 6 (.drive 0) ++ [.cancel 0 0]

theorem cancelEarly_state :
    ((run true cancelEarly).process.loop 0).driver.phase =
      .registering (Handle.adopt (.cell 11)) ⟨some 0⟩
        ⟨1, Handle.adopt (.cell 18), Handle.adopt (.cell 20), 0, .nothing⟩ ∧
    Cancellation.Token.isRequested ⟨some 0⟩ (run true cancelEarly).process.signals = true := by
  rw [cancelEarly, List.append_assoc, List.append_assoc, run_started]
  decide +kernel

/-- The driver finds the signal raised and asks for the cancellation itself. -/
theorem cancellation_routed_early : SourcesMade 0 cancelEarly ∧
    Routes (history true cancelEarly) (run true cancelEarly) ∧
    (run true cancelEarly).deeds (.drive 0) = [.push 0 (.cancel 1)] := by
  obtain ⟨phase, requested⟩ := cancelEarly_state
  have made : SourcesMade 0 cancelEarly := by
    simp [SourcesMade, cancelEarly, Action.Within, Action.sources, Cancellation.Token.Within]
  have routes := cancellation_routed true cancelEarly made
  exact ⟨made, routes, (routes.overtaken 0 _ _ _ phase requested).1⟩

end System

end EmbeddedPython
