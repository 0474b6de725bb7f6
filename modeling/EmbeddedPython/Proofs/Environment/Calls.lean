import EmbeddedPython.Proofs.Environment.Registry
import EmbeddedPython.Proofs.Environment.Tracking

/-
  Requests to cancel

  A request to cancel a task is left to a thread when a signal is raised, and
  goes into the queue of its loop later. Both count as one call: the calls of a
  run are those that have been pushed and those that are still to be. What an
  act means for the calls, for what waits on the signals and for the tasks that
  are registered comes to five effects.
-/

namespace EmbeddedPython

open Activity Bridge

/-! ## Requests to cancel -/

namespace Bridge

/-- The task that a request is to cancel. -/
def Request.cancels? : Request → Option TaskId
  | cancel id => some id
  | _ => none

end Bridge

/-- What a request to a loop calls for. -/
def callOf (l : LoopId) (r : Request) : Option CancelCall := r.cancels?.map (⟨l, ·⟩)

/-- The cancellations that are still to be requested. -/
def pendingCalls (pending : List (LoopId × Request)) : List CancelCall :=
  pending.filterMap fun x => callOf x.1 x.2

/-- The cancellations that have been requested. -/
def pushedCalls (deeds : List Deed) : List CancelCall :=
  deeds.filterMap fun
    | .push l r => callOf l r
    | _ => none

/-- The cancellations that have been requested or are still to be. -/
def calls (deeds : List Deed) (pending : List (LoopId × Request)) : List CancelCall :=
  pendingCalls pending ++ pushedCalls deeds

theorem pushedCalls_append (a b : List Deed) :
    pushedCalls (a ++ b) = pushedCalls a ++ pushedCalls b :=
  List.filterMap_append

theorem pendingCalls_append (a b : List (LoopId × Request)) :
    pendingCalls (a ++ b) = pendingCalls a ++ pendingCalls b :=
  List.filterMap_append

theorem calls_append (H ds : List Deed) (pending : List (LoopId × Request)) :
    calls (H ++ ds) pending = calls H pending ++ pushedCalls ds := by
  rw [calls, calls, pushedCalls_append, List.append_assoc]

theorem pushedCalls_of_quiet {deeds : List Deed} (h : ∀ l r, .push l r ∉ deeds) :
    pushedCalls deeds = [] :=
  List.filterMap_eq_nil_iff.mpr fun e he => by
    cases e with
    | push l r => exact absurd he (h l r)
    | _ => rfl

theorem mem_pushedCalls {deeds : List Deed} {c : CancelCall} :
    c ∈ pushedCalls deeds ↔ .push c.loop (.cancel c.task) ∈ deeds := by
  constructor
  · intro hc
    obtain ⟨e, he, hs⟩ := List.mem_filterMap.mp hc
    cases e with
    | push l r =>
      cases r with
      | cancel id =>
        cases hs
        exact he
      | _ => cases hs
    | _ => cases hs
  · exact fun h => List.mem_filterMap.mpr ⟨_, h, rfl⟩

theorem mem_pendingCalls {pending : List (LoopId × Request)} {c : CancelCall} :
    c ∈ pendingCalls pending ↔ (c.loop, .cancel c.task) ∈ pending := by
  constructor
  · intro hc
    obtain ⟨⟨l, r⟩, hx, hs⟩ := List.mem_filterMap.mp hc
    cases r with
    | cancel id =>
      cases hs
      exact hx
    | _ => cases hs
  · exact fun h => List.mem_filterMap.mpr ⟨_, h, rfl⟩

namespace Bridge.Desk

theorem accepting?_eq {d : Desk} {x : Tracked} (h : d.phase.accepting? = some x) :
    ∃ c, d.phase = .accepting c x := by
  cases hp : d.phase with
  | accepting c y =>
    rw [hp] at h
    cases h
    exact ⟨c, rfl⟩
  | _ =>
    rw [hp] at h
    cases h

theorem armed_sublist_live (d : Desk) : d.armed.Sublist d.live := by
  refine List.Sublist.append (List.Sublist.refl _) ?_
  cases d.phase <;> first | exact List.Sublist.refl _ | exact List.nil_sublist _

end Bridge.Desk

section

variable {l : LoopId} {H ds : List Deed} {d d' : Desk} {x y : Tracked}

theorem Known.turn {id : TaskId} (h : Known l H d id) (turn : d.Turn l ds d') :
    Known l (H ++ ds) d' id := by
  rcases h with ht | ⟨c, x, hp, rfl⟩
  · exact .inl (List.mem_append_left _ ht)
  · cases turn with
    | idle | push => exact .inr ⟨c, x, hp, rfl⟩
    | opened vacant =>
      subst vacant
      cases hp
    | go phase goes => cases goes <;> cases hp.symm.trans ‹_›
    | fail phase => rcases phase with h | ⟨n, h⟩ <;> cases hp.symm.trans h
    | accept c' x' phase =>
      cases hp.symm.trans phase
      exact .inl (by simp)
    | disown c' x' phase =>
      cases hp.symm.trans phase
      exact .inl (by simp)
    | _ => cases hp.symm.trans ‹_›

/-- The driver knows the tasks that it has registered. -/
theorem Tracks.known (h : Tracks l H d) (hx : x ∈ d.armed) : Known l H d x.id := by
  rcases List.mem_append.mp hx with hx | hx
  · exact .inl ((h.tasks x.id).mp ⟨x, hx, rfl⟩).1
  · obtain ⟨c, hp⟩ := Desk.accepting?_eq (Option.mem_toList.mp hx)
    exact .inr ⟨c, x, hp, rfl⟩

theorem Tracks.of_armed (h : Tracks l H d) (hx : x ∈ d.armed) :
    ∃ i token, .start l x.id i token ∈ H := by
  rcases h.known hx with ht | ⟨c, y, hp, he⟩
  · exact h.begun x.id ht
  · exact ((h.hand x.id).mp ⟨y, by rw [hp]; rfl, he⟩).1

theorem Tracks.eq_of_armed (h : Tracks l H d) (hx : x ∈ d.armed) (hy : y ∈ d.armed)
    (same : x.id = y.id) : x = y :=
  List.inj_on_of_nodup_map h.ids (d.armed_sublist_live.subset hx) (d.armed_sublist_live.subset hy)
    same

/-- A task that is registered has not been asked to cancel and is not finished. -/
theorem Tracks.unasked (h : Tracks l H d) (hx : x ∈ d.armed) (hr : x.registration ≠ .nothing) :
    .ask l x.id ∉ H := by
  intro ha
  rcases List.mem_append.mp hx with hx | hx
  · exact hr (h.silent x hx ha)
  · obtain ⟨c, hp⟩ := Desk.accepting?_eq (Option.mem_toList.mp hx)
    exact ((h.hand x.id).mp ⟨x, by rw [hp]; rfl, rfl⟩).2 (h.asked x.id ha)

theorem Tracks.unfinished (h : Tracks l H d) (hx : x ∈ d.armed) : .finish l x.id ∉ H := by
  rcases List.mem_append.mp hx with hx | hx
  · exact ((h.tasks x.id).mp ⟨x, hx, rfl⟩).2
  · obtain ⟨c, hp⟩ := Desk.accepting?_eq (Option.mem_toList.mp hx)
    exact fun hf => ((h.hand x.id).mp ⟨x, by rw [hp]; rfl, rfl⟩).2 (h.finished x.id hf)

end

/-! ## What an act means for callbacks and requests to cancel -/

/-- What becomes of the callbacks, of the tasks that are registered and of the requests to cancel
them, with the deeds that go into the history. -/
inductive Effect (b : Board) : List Deed → Board → Prop where
  /-- Tasks and callbacks stay. Requests go on their way or are given up; a task that is started has
  a new number. -/
  | still {ds : List Deed} {b' : Board} (signal : ∀ i, b'.signal i = b.signal i)
      (armed : ∀ l, (b'.desk l).armed = (b.desk l).armed)
      (fewer : ∀ H, (calls (H ++ ds) b'.pending).Subperm (calls H b.pending))
      (starts : ∀ l id i token, .start l id i token ∈ ds → id = b.nextTask) : Effect b ds b'
  /-- A task is not registered, because it has no signal, or because the signal has been raised and
  its cancellation is requested at once. -/
  | arm {ds : List Deed} {b' : Board} {l : LoopId} {c : Handle} {token : Cancellation.Token}
      {x : Tracked} (phase : (b.desk l).phase = .registering c token x)
      (waiting : ∀ i, b'.waiting i = b.waiting i)
      (raised : ∀ i, (b'.signal i).raised = (b.signal i).raised)
      (next : ∀ i, (b.signal i).nextId ≤ (b'.signal i).nextId)
      (others : ∀ k, k ≠ l → (b'.desk k).armed = (b.desk k).armed)
      (armed : (b'.desk l).armed = (b.desk l).armed ++ [{ x with registration := .nothing }])
      (accepting : (b'.desk l).phase = .accepting c { x with registration := .nothing })
      (pending : b'.pending = b.pending)
      (call : (token.signal = none ∧ ds = []) ∨ ∃ i, token.signal = some i ∧
        (b.signal i).raised = true ∧ ds = [.push l (.cancel x.id)]) : Effect b ds b'
  | register {b' : Board} {l : LoopId} {c : Handle} {token : Cancellation.Token} {x : Tracked}
      {i : Nat} (phase : (b.desk l).phase = .registering c token x) (signal : token.signal = some i)
      (unraised : (b.signal i).raised = false)
      (here : b'.signal i = ((b.signal i).register ⟨l, x.id⟩ []).2)
      (there : ∀ j, j ≠ i → b'.signal j = b.signal j)
      (others : ∀ k, k ≠ l → (b'.desk k).armed = (b.desk k).armed)
      (armed : (b'.desk l).armed =
        (b.desk l).armed ++ [{ x with registration := ⟨some i, (b.signal i).nextId⟩ }])
      (pending : b'.pending = b.pending) : Effect b [] b'
  /-- Tasks are finished, or asked to cancel; their registrations are given up. -/
  | withdraw {ds : List Deed} {b' : Board} (l : LoopId) (xs : List Tracked)
      (signal : ∀ i, b'.signal i = (b.giveUpAll xs).signal i)
      (here : ∀ x ∈ xs, x ∈ (b.desk l).armed)
      (others : ∀ k, k ≠ l → (b'.desk k).armed = (b.desk k).armed)
      (kept : ∀ x ∈ (b.desk l).armed, x ∈ xs ∨ x ∈ (b'.desk l).armed)
      (left : ∀ y ∈ (b'.desk l).armed, (y ∈ (b.desk l).armed ∧ y ∉ xs) ∨
        (y.registration = .nothing ∧ .ask l y.id ∈ ds))
      (pending : b'.pending = b.pending) (quiet : ∀ k r, .push k r ∉ ds)
      (starts : ∀ k id i token, .start k id i token ∉ ds) : Effect b ds b'
  /-- A signal is raised; what has waited on it is still to be requested. -/
  | raise {b' : Board} {i : Nat}
      (here : b'.signal i = { b.signal i with raised := true, waiting := [] })
      (there : ∀ j, j ≠ i → b'.signal j = b.signal j) (desk : b'.desk = b.desk)
      (pending : b'.pending = b.pending ++ (b.waiting i).map fun w =>
        (w.callback.loop, .cancel w.callback.task)) : Effect b [] b'

theorem Effect.idle {b b' : Board} {ds : List Deed} (signal : ∀ i, b'.signal i = b.signal i)
    (armed : ∀ l, (b'.desk l).armed = (b.desk l).armed)
    (pending : pendingCalls b'.pending = pendingCalls b.pending) (quiet : pushedCalls ds = [])
    (starts : ∀ l id i token, .start l id i token ∈ ds → id = b.nextTask) : Effect b ds b' := by
  have same (H : List Deed) : calls (H ++ ds) b'.pending = calls H b.pending := by
    rw [calls_append, quiet, List.append_nil, calls, calls, pending]
  refine .still signal armed (fun H => ?_) starts
  rw [same]

/-- One task is asked to cancel, if it is there. -/
theorem Effect.cancelOne {b b₀ : Board} {ds : List Deed} {l : LoopId} {id : TaskId}
    (signals : b₀.signals = b.signals) (pending : b₀.pending = b.pending)
    (others : ∀ k, k ≠ l → b₀.desk k = b.desk k) (armed : (b₀.desk l).armed = (b.desk l).armed)
    (idle : (b₀.desk l).phase.accepting? = none) (ids : ((b.desk l).armed.map (·.id)).Nodup)
    (asks : (∃ x ∈ (b₀.desk l).tasks, x.id = id) → .ask l id ∈ ds)
    (quiet : ∀ k r, .push k r ∉ ds) (starts : ∀ k id i token, .start k id i token ∉ ds) :
    Effect b ds (b₀.cancelOne l id) := by
  have tasks : (b₀.desk l).armed = (b₀.desk l).tasks := by
    rw [Desk.armed, idle, Option.toList_none, List.append_nil]
  have same (i : Nat) : b₀.signal i = b.signal i := by rw [Board.signal, signals]; rfl
  simp only [Board.cancelOne]
  cases hf : (b₀.desk l).tasks.find? (·.id == id) with
  | none =>
    refine .idle same (fun k => ?_) (by rw [pending])
      (pushedCalls_of_quiet quiet) fun k id i token he =>
      absurd he (starts k id i token)
    by_cases hk : k = l
    · rw [hk, armed]
    · rw [others k hk]
  | some x =>
    have hx : x ∈ (b₀.desk l).tasks := List.mem_of_find?_eq_some hf
    have hid : x.id = id := by simpa using List.find?_some hf
    have asked : .ask l id ∈ ds := asks ⟨x, hx, hid⟩
    refine .withdraw l [x] (fun i => ?_) (fun y hy => ?_) (fun k hk => ?_)
      (fun y hy => ?_) (fun y hy => ?_) pending quiet starts
    · rw [Board.giveUpAll, List.foldl_cons, List.foldl_nil, Board.signal, Board.signal,
        Board.change_signals, Board.giveUp, Board.giveUp, signals]
    · rw [List.mem_singleton.mp hy, ← armed, tasks]
      exact hx
    · rw [Board.change_desk_of_ne _ hk, Board.giveUp_desk, others k hk]
    · rw [← armed, tasks] at hy
      rw [List.mem_singleton, Board.change_desk_self, Board.giveUp_desk]
      by_cases he : y.id = id
      · rw [← tasks, armed] at hx hy
        exact .inl (List.inj_on_of_nodup_map ids hy hx (he.trans hid.symm))
      · refine .inr (List.mem_append_left _ (List.mem_map.mpr ⟨y, hy, if_neg ?_⟩))
        simpa using he
    · rw [Board.change_desk_self, Board.giveUp_desk] at hy
      rcases List.mem_append.mp hy with hy | hy
      · obtain ⟨z, hz, rfl⟩ := List.mem_map.mp hy
        by_cases he : (z.id == id) = true
        · rw [if_pos he]
          exact .inr ⟨rfl, by rwa [Tracked.withdrawn, show z.id = id by simpa using he]⟩
        · rw [if_neg he, ← armed, tasks, List.mem_singleton]
          exact .inl ⟨hz, fun hzx => he (by rw [hzx]; exact beq_iff_eq.mpr hid)⟩
      · rw [idle] at hy
        cases hy

section

variable {b b' : Board} {H ds : List Deed} {c : CancelCall} {l : LoopId} {i : Nat}

/-- When a signal is raised, what waits on it is still to be requested. -/
theorem Effect.calls_raise (i : Nat) (pending : b'.pending = b.pending ++ (b.waiting i).map fun w =>
      (w.callback.loop, .cancel w.callback.task)) :
    (calls (H ++ []) b'.pending).Perm (calls H b.pending ++ (b.waiting i).map (·.callback)) := by
  have callbacks : pendingCalls ((b.waiting i).map fun w =>
      (w.callback.loop, .cancel w.callback.task)) = (b.waiting i).map (·.callback) := by
    rw [pendingCalls, List.filterMap_map, ← List.filterMap_eq_map]
    rfl
  rw [List.append_nil, calls, pending, pendingCalls_append, callbacks, calls, List.append_assoc,
    List.append_assoc]
  exact List.Perm.append_left _ List.perm_append_comm

/-- Where a call comes from. -/
theorem Effect.calls_of (h : Effect b ds b') (hc : c ∈ calls (H ++ ds) b'.pending) :
    c ∈ calls H b.pending ∨
      (∃ l k token x i, (b.desk l).phase = .registering k token x ∧
        (b'.desk l).phase = .accepting k { x with registration := .nothing } ∧ c = ⟨l, x.id⟩ ∧
        token.signal = some i ∧ (b'.signal i).raised = true) ∨
      ∃ i, ∃ w ∈ b.waiting i, w.callback = c ∧ (b'.signal i).raised = true := by
  cases h with
  | still signal armed fewer => exact .inl ((fewer H).subset hc)
  | @arm _ _ l k token x phase waiting raised next others armed accepting pending call =>
    rw [calls_append, pending, List.mem_append] at hc
    refine hc.imp_right fun hc => .inl ?_
    rcases call with ⟨-, rfl⟩ | ⟨i, signal, hr, rfl⟩
    · cases hc
    · exact ⟨l, k, token, x, i, phase, accepting, List.mem_singleton.mp hc, signal,
        (raised i).trans hr⟩
  | register phase signal unraised here there others armed pending =>
    rw [calls_append, pending] at hc
    exact .inl (by simpa [pushedCalls] using hc)
  | withdraw l xs signal here others kept left pending quiet =>
    rw [calls_append, pushedCalls_of_quiet quiet, List.append_nil, pending] at hc
    exact .inl hc
  | @raise _ i here there desk pending =>
    refine (List.mem_append.mp ((calls_raise i pending).mem_iff.mp hc)).imp_right fun hc => ?_
    obtain ⟨w, hw, rfl⟩ := List.mem_map.mp hc
    exact .inr ⟨i, w, hw, rfl, by rw [here]⟩

/-- What has waited on a signal that becomes raised is to be requested. -/
theorem Effect.pending_raised (h : Effect b ds b') (plain : ∀ i, ∀ w ∈ b.waiting i, w.owns = [])
    (hb : (b.signal i).raised = false) (hb' : (b'.signal i).raised = true)
    {w : Cancellation.Waiting CancelCall} (hw : w ∈ b.waiting i) :
    (w.callback.loop, .cancel w.callback.task) ∈ b'.pending := by
  have change : (b'.signal i).raised ≠ (b.signal i).raised := by
    rw [hb, hb']
    exact Bool.noConfusion
  cases h with
  | still signal => exact absurd (by rw [signal]) change
  | arm phase waiting raised => exact absurd (raised i) change
  | @register _ l k token x j phase signal unraised here there =>
    refine absurd ?_ change
    by_cases hj : i = j
    · subst hj
      rw [here, Board.signal_register unraised]
    · rw [there i hj]
  | withdraw l xs signal => exact absurd (by rw [signal, Board.signal_giveUpAll plain]) change
  | @raise _ j here there desk pending =>
    by_cases hj : i = j
    · subst hj
      rw [pending]
      exact List.mem_append_right _ (List.mem_map.mpr ⟨w, hw, rfl⟩)
    · exact absurd (by rw [there i hj]) change

/-- A signal stays raised. -/
theorem Effect.raised (h : Effect b ds b') (plain : ∀ i, ∀ w ∈ b.waiting i, w.owns = [])
    (hr : (b.signal i).raised = true) : (b'.signal i).raised = true := by
  cases h with
  | still signal => rw [signal, hr]
  | arm phase waiting raised => rw [raised, hr]
  | @register _ l k token x j phase signal unraised here there =>
    by_cases hj : i = j
    · subst hj
      rw [hr] at unraised
      cases unraised
    · rw [there i hj, hr]
  | withdraw l xs signal => rw [signal, Board.signal_giveUpAll plain, hr]
  | @raise _ j here there =>
    by_cases hj : i = j
    · rw [hj, here]
    · rw [there i hj, hr]

end

theorem armed_change {b b' : Board} (l : LoopId) {f : Desk → Desk} (desk : b'.desk = b.desk)
    (h : (f (b.desk l)).armed = (b.desk l).armed) (k : LoopId) :
    ((b'.change l f).desk k).armed = (b.desk k).armed := by
  by_cases hk : k = l
  · subst hk
    rw [Board.change_desk_self, desk, h]
  · rw [Board.change_desk_of_ne _ hk, desk]

theorem armed_eq {d d' : Desk} (tasks : d'.tasks = d.tasks) (h : d.phase.accepting? = none)
    (h' : d'.phase.accepting? = none) : d'.armed = d.armed := by
  rw [Desk.armed, Desk.armed, tasks, h, h']

theorem armed_of_tasks {d : Desk} (h : d.phase.accepting? = none) : d.armed = d.tasks := by
  rw [Desk.armed, h, Option.toList_none, List.append_nil]

namespace Effect

variable {b b₀ : Board} {ds : List Deed} {l : LoopId}

/-- A driver goes on, and the tasks that it has registered stay. -/
theorem moves {f : Desk → Desk} (signals : b₀.signals = b.signals) (desk : b₀.desk = b.desk)
    (pending : b₀.pending = b.pending) (armed : (f (b.desk l)).armed = (b.desk l).armed)
    (quiet : pushedCalls ds = [])
    (starts : ∀ k id i token, .start k id i token ∈ ds → id = b.nextTask) :
    Effect b ds (b₀.change l f) := by
  refine .idle (fun i => ?_) (armed_change l desk armed) (congrArg pendingCalls pending) quiet starts
  rw [Board.signal, Board.change_signals, signals]
  rfl

/-- A request that is left to a thread goes into the queue of its loop. -/
theorem push {r : Request} {before after : List (LoopId × Request)}
    (h : b.pending = before ++ (l, r) :: after) :
    Effect b [.push l r] ({ b with pending := before ++ after }.change l
      fun d => { d with requests := d.requests ++ [r] }) := by
  have moved (H : List Deed) :
      (calls (H ++ [.push l r]) (before ++ after)).Perm (calls H b.pending) := by
    rw [h]
    refine List.perm_iff_count.mpr fun c => ?_
    cases hc : callOf l r with
    | none => simp [calls, pendingCalls, pushedCalls, List.filterMap_append, hc]
    | some c' =>
      simp only [calls, pendingCalls, pushedCalls, List.filterMap_append, List.filterMap_cons, hc,
        List.count_append, List.count_cons, List.filterMap_nil, List.count_nil]
      omega
  exact .still (fun _ => rfl) (armed_change l rfl rfl) (fun H => (moved H).subperm) (by simp)

/-- Or it is given up, because the queue does not take it. -/
theorem refuse {r : Request} {e : Error} {before after : List (LoopId × Request)}
    (h : b.pending = before ++ (l, r) :: after) :
    Effect b [] ({ b with pending := before ++ after }.answer r e) := by
  refine .still (fun i => ?_) (fun k => ?_) (fun H => ?_) (by simp)
  · rw [Board.signal, Board.answer_signals]
    rfl
  · rw [Board.answer_desk]
  · rw [Board.answer_pending, List.append_nil, h]
    refine List.Sublist.subperm (List.Sublist.append ?_ (List.Sublist.refl _))
    exact ((List.sublist_cons_self _ _).append_left before).filterMap _

/-- A signal is raised, or there is none. -/
theorem raiseSignal (listed : Listed b) (i : Nat) : Effect b []
    { b.putSignal i (b.signal i).raise.2 with
      pending := b.pending ++ (b.signal i).raise.1.map fun w =>
        (w.callback.loop, .cancel w.callback.task) } := by
  have taken := Cancellation.Signal.raise_eq (listed.raised i)
  by_cases hi : i < b.signals.size
  · refine .raise (i := i) ?_ (fun j hj => ?_) rfl (by rw [taken]; rfl)
    · exact (Board.signal_putSignal b i _ i).trans ((if_pos ⟨rfl, hi⟩).trans (by rw [taken]))
    · exact (Board.signal_putSignal b i _ j).trans (if_neg fun h => hj h.1)
  · have none : b.waiting i = [] := by
      rw [Board.waiting, Board.signal_of_size_le (Nat.not_lt.mp hi)]
      rfl
    refine .idle (fun j => ?_) (fun _ => rfl) ?_ rfl (by simp)
    · exact (Board.signal_putSignal b i _ j).trans (if_neg fun h => hi h.2)
    · rw [taken, show (b.signal i).waiting = [] from none]
      exact congrArg pendingCalls (List.append_nil _)

/-- All tasks are finished, because the loop fails. -/
theorem fail (idle : (b.desk l).phase.accepting? = none) (e : Error) :
    Effect b ((b.desk l).tasks.map fun x => .finish l x.id)
      ((b.fail (b.desk l).tasks e).change l fun d => { d with tasks := [], phase := .closing }) := by
  refine .withdraw l (b.desk l).tasks (fun i => ?_)
    (fun x hx => List.mem_append_left _ hx) (fun k hk => ?_) (fun x hx => .inl ?_)
    (fun y hy => ?_) ?_ (by simp) (by simp)
  · rw [Board.signal, Board.change_signals, Board.fail_signals]
    rfl
  · rw [Board.change_desk_of_ne _ hk, Board.fail_desk]
  · rwa [armed_of_tasks idle] at hx
  · rw [Board.change_desk_self] at hy
    cases hy
  · rw [Board.change_pending, Board.fail_pending]

/-- All tasks are asked to cancel, unless that has been done. -/
theorem takeStop (rest : List Request) (phase : (b.desk l).phase = .draining) :
    Effect b (.take l .stop :: if (b.desk l).stopping then []
        else (b.desk l).tasks.map fun x => .ask l x.id)
      ((b.change l fun d => { d with requests := rest, phase := .draining }).stopAll l) := by
  let b₀ := b.change l fun d => { d with requests := rest, phase := .draining }
  have armed (k : LoopId) : (b₀.desk k).armed = (b.desk k).armed :=
    armed_change l rfl (armed_eq rfl (by rw [phase]; rfl) rfl) k
  have desk : b₀.desk l = { b.desk l with requests := rest, phase := .draining } :=
    Board.change_desk_self ..
  have tasks : (b.desk l).armed = (b.desk l).tasks := armed_of_tasks (by rw [phase]; rfl)
  show Effect b _ (b₀.stopAll l)
  cases hs : (b.desk l).stopping with
  | true =>
    have same : b₀.stopAll l = b₀ := by
      rw [Board.stopAll, if_pos (by rw [desk]; exact hs)]
    rw [same, if_pos rfl]
    exact .idle (fun _ => rfl) armed rfl rfl (by simp)
  | false =>
    have asked : b₀.stopAll l = (b₀.giveUpAll (b.desk l).tasks).change l fun d =>
        { d with stopping := true, tasks := d.tasks.map Tracked.withdrawn } := by
      rw [Board.stopAll, if_neg (by rw [desk, hs]; exact Bool.false_ne_true), desk]
    rw [asked, if_neg Bool.false_ne_true]
    refine .withdraw l (b.desk l).tasks (fun i => ?_)
      (fun x hx => tasks ▸ hx) (fun k hk => ?_) (fun x hx => .inl (tasks ▸ hx))
      (fun y hy => .inr ?_) ?_ (by simp) (by simp)
    · rw [Board.signal, Board.change_signals, Board.change_giveUpAll]
      rfl
    · rw [Board.change_desk_of_ne _ hk, Board.giveUpAll_desk, armed]
    · rw [Board.change_desk_self, Board.giveUpAll_desk, desk, armed_of_tasks rfl] at hy
      obtain ⟨x, hx, rfl⟩ := List.mem_map.mp hy
      refine ⟨rfl, List.mem_cons_of_mem _ ?_⟩
      exact List.mem_map.mpr ⟨x, hx, rfl⟩
    · rw [Board.change_pending, Board.giveUpAll_pending]
      rfl

section

variable {c : Handle} {token : Cancellation.Token} {x : Tracked} {i : Nat}

/-- A task that is not registered is to be tracked without a registration. -/
theorem unregistered (phase : (b.desk l).phase = .registering c token x) {f : Desk → Desk}
    (waiting : ∀ j, (b₀.signal j).waiting = (b.signal j).waiting)
    (raised : ∀ j, (b₀.signal j).raised = (b.signal j).raised)
    (next : ∀ j, (b.signal j).nextId ≤ (b₀.signal j).nextId) (desk : b₀.desk = b.desk)
    (pending : b₀.pending = b.pending) (tasks : (f (b.desk l)).tasks = (b.desk l).tasks)
    (accepting : (f (b.desk l)).phase = .accepting c { x with registration := .nothing })
    (call : (token.signal = none ∧ ds = []) ∨ ∃ i, token.signal = some i ∧
      (b.signal i).raised = true ∧ ds = [.push l (.cancel x.id)]) :
    Effect b ds (b₀.change l f) := by
  refine .arm phase waiting raised next (fun k hk => ?_) ?_ ?_ pending call
  · rw [Board.change_desk_of_ne _ hk, desk]
  · rw [Board.change_desk_self, desk, armed_of_tasks (d := b.desk l) (by rw [phase]; rfl),
      Desk.armed, accepting, tasks]
    rfl
  · rw [Board.change_desk_self, desk, accepting]

/-- Registering with a signal that has been raised only uses up a number. -/
theorem signal_overtaken (raised : (b.signal i).raised = true) (call : CancelCall) (j : Nat) :
    ((b.putSignal i ((b.signal i).register call []).2).signal j).waiting = (b.signal j).waiting ∧
    ((b.putSignal i ((b.signal i).register call []).2).signal j).raised = (b.signal j).raised ∧
    (b.signal j).nextId ≤ ((b.putSignal i ((b.signal i).register call []).2).signal j).nextId := by
  rw [Board.signal_putSignal, Cancellation.Signal.register_of_raised _ _ raised]
  split
  · next hj =>
    rw [hj.1]
    exact ⟨rfl, rfl, Nat.le_succ _⟩
  · exact ⟨rfl, rfl, Nat.le_refl _⟩

end

/-- A task is finished. -/
theorem conclude {n : Nat} {x : Tracked} {stage : Bridge.Stage}
    (idle : (b.desk l).phase.accepting? = none) (ids : ((b.desk l).armed.map (·.id)).Nodup)
    (here : (b.desk l).tasks[n]? = some x) : Effect b [.finish l x.id]
      (((b.giveUp x.registration).tell x.promise stage).change l fun d =>
        { d with tasks := d.tasks.eraseIdx n }) := by
  rw [armed_of_tasks idle] at ids
  have perm := Desk.perm_of_getElem? here
  have left (xs : List Tracked) : { b.desk l with tasks := xs }.armed = xs := armed_of_tasks idle
  refine .withdraw l [x] (fun i => rfl) (fun y hy => ?_) (fun k hk => ?_)
    (fun y hy => ?_) (fun y hy => .inl ?_) rfl (by simp) (by simp)
  · rw [List.mem_singleton.mp hy, armed_of_tasks idle]
    exact List.mem_of_getElem? here
  · rw [Board.change_desk_of_ne _ hk, Board.tell_desk, Board.giveUp_desk]
  · rw [armed_of_tasks idle] at hy
    rw [Board.change_desk_self, Board.tell_desk, Board.giveUp_desk, left, List.mem_singleton]
    exact List.mem_cons.mp (perm.mem_iff.mpr hy)
  · rw [Board.change_desk_self, Board.tell_desk, Board.giveUp_desk, left] at hy
    rw [armed_of_tasks idle]
    refine ⟨perm.mem_iff.mp (List.mem_cons_of_mem x hy), fun he => ?_⟩
    have twice := (perm.map (·.id)).nodup_iff.mpr ids
    rw [List.map_cons, List.nodup_cons, ← List.mem_singleton.mp he] at twice
    exact twice.1 (List.mem_map_of_mem hy)

/-- The requests that are left in a queue are handed back. -/
theorem leave (phase : (b.desk l).phase = .closing) :
    Effect b ((b.desk l).requests.map (.clear l)) ((b.hand (b.desk l).requests).change l fun d =>
      { d with requests := [], isOpen := false, phase := .exited }) := by
  refine .moves (Board.hand_signals _ _) (Board.hand_desk _ _) (Board.hand_pending _ _)
    (armed_eq rfl (by rw [phase]; rfl) rfl) ?_ ?_
  · exact List.filterMap_eq_nil_iff.mpr fun e he => by
      obtain ⟨r, -, rfl⟩ := List.mem_map.mp he
      rfl
  · intro l id i token he
    obtain ⟨r, -, he⟩ := List.mem_map.mp he
    cases he

end Effect

namespace System

variable {s : System}

theorem Act.effect {a : Action} {ds : List Deed} {b : Board}
    (listed : Listed s.board) (ids : ∀ l, ((s.board.desk l).armed.map (·.id)).Nodup)
    (there : ∀ l c token x, (s.board.desk l).phase = .registering c token x →
      ∀ i, token.signal = some i → i < s.board.signals.size)
    (h : s.Act a ds b) : Effect s.board ds b := by
  cases h with
  | quiet a more stops other =>
    refine .idle (fun _ => rfl) (fun _ => rfl) ?_ rfl (by simp)
    have none : pendingCalls more = [] := by
      refine List.filterMap_eq_nil_iff.mpr fun x hx => ?_
      rw [stops x hx]
      rfl
    rw [pendingCalls_append, none, List.append_nil]
  | submit t l awaitable coroutine token =>
    refine .idle (fun _ => rfl) (fun _ => rfl) ?_ rfl (by simp)
    exact (pendingCalls_append _ _).trans (List.append_nil _)
  | source =>
    refine .idle (fun i => ?_) (fun _ => rfl) rfl rfl (by simp)
    refine (Process.getD_push _ _ _ i).trans ?_
    split
    · next hi => exact (Board.signal_of_size_le (Nat.le_of_eq hi.symm)).symm
    · rfl
  | raise t i => exact .raiseSignal listed i
  | openLoop a vacant other => exact .moves rfl rfl rfl (by rw [vacant]; rfl) rfl (by simp)
  | push n l r pre post hr isOpen => exact .push hr
  | refuse n l r pre post hr closed => exact .refuse hr
  | wait l phase => exact .idle (fun _ => rfl) (fun _ => rfl) rfl rfl (by simp)
  | go l phase goes =>
    have none : (s.board.desk l).phase.accepting? = none ∧ phase.accepting? = none := by
      cases goes <;> simp [*, Phase.accepting?]
    exact .moves rfl rfl rfl (armed_eq rfl none.1 none.2) rfl (by simp)
  | fail l e hf =>
    refine .fail ?_ e
    rcases hf.phase with hp | ⟨n, hp⟩ <;>
      exact (congrArg Phase.accepting? (show (s.board.desk l).phase = _ from hp)).trans rfl
  | takeSchedule l c token i rest phase hr =>
    exact .moves rfl rfl rfl (armed_eq rfl (by rw [phase]; rfl) rfl) rfl (by simp)
  | takeCancel l id rest phase hr =>
    refine .cancelOne rfl rfl (fun k hk => Board.change_desk_of_ne _ hk _) ?_ ?_ (ids l)
      (fun hx => ?_) (by simp) (by simp)
    · exact armed_change l rfl (armed_eq rfl (by rw [phase]; rfl) rfl) l
    · rw [Board.change_desk_self]
      rfl
    · rw [Board.change_desk_self] at hx
      exact List.mem_cons_of_mem _ (mem_asked.mpr ⟨rfl, hx⟩)
  | takeStop l rest phase hr => exact .takeStop rest phase
  | reject l c token i why phase hw =>
    exact .moves rfl rfl rfl (armed_eq rfl (by rw [phase]; rfl) rfl) rfl (by simp)
  | unprepared l c token i e phase =>
    exact .moves rfl rfl rfl (armed_eq rfl (by rw [phase]; rfl) rfl) rfl (by simp)
  | start l c token i task done phase =>
    exact .moves rfl rfl rfl (armed_eq rfl (by rw [phase]; rfl) rfl) rfl (by simp +contextual)
  | skip l c token x phase signal =>
    exact .unregistered phase (fun _ => rfl) (fun _ => rfl) (fun _ => Nat.le_refl _) rfl rfl rfl rfl
      (.inl ⟨signal, rfl⟩)
  | register l c token x i phase signal unraised =>
    refine .register phase signal unraised ?_ (fun j hj => ?_) (fun k hk => ?_) ?_ rfl
    · exact (Board.signal_putSignal s.board i _ i).trans
        (if_pos ⟨rfl, there l c token x phase i signal⟩)
    · exact (Board.signal_putSignal s.board i _ j).trans (if_neg fun h => hj h.1)
    · rw [Board.change_desk_of_ne _ hk]
      rfl
    · rw [Board.change_desk_self, armed_of_tasks (d := s.board.desk l) (by rw [phase]; rfl)]
      rfl
  | overtaken l c token x i phase signal raised isOpen =>
    have kept := Effect.signal_overtaken (b := s.board) raised ⟨l, x.id⟩
    exact .unregistered phase (fun j => (kept j).1) (fun j => (kept j).2.1) (fun j => (kept j).2.2)
      rfl rfl rfl rfl (.inr ⟨i, signal, raised, rfl⟩)
  | accept l c x phase awaited =>
    exact .moves rfl rfl rfl (by simp [Desk.armed, phase, Phase.accepting?]) rfl (by simp)
  | disown l c x phase abandoned =>
    refine .cancelOne rfl rfl (fun k hk => ?_) ?_ ?_ (ids l) (fun _ => by simp) (by simp) (by simp)
    · rw [Board.change_desk_of_ne _ hk, Board.tell_desk]
    · rw [Board.change_desk_self, Board.tell_desk]
      simp [Desk.armed, phase, Phase.accepting?]
    · rw [Board.change_desk_self]
      rfl
  | conclude l n x o phase here answer => exact .conclude (by rw [phase]; rfl) (ids l) here
  | leave l phase => exact .leave phase

end System

end EmbeddedPython
