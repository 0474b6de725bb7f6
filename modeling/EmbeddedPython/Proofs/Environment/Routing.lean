import EmbeddedPython.Proofs.Environment.Calls
import EmbeddedPython.Proofs.Environment.Provenance

/-
  The routing of cancellations

  A driver registers each task that it starts on the signal that the task was
  submitted with. When the signal is raised, the loop of the task is asked once
  to cancel it. Callbacks, requests and tasks fit together at any time: what
  waits on a signal belongs to a task that is there and has not been asked to
  cancel, and a task whose signal has been raised has one request on its way.
-/

namespace EmbeddedPython

open Activity Bridge

/-! ## Requests on their way -/

/-- A call is due when it is left to be pushed, or waits in the queue. -/
def Due (b : Board) (c : CancelCall) : Prop :=
  (c.loop, .cancel c.task) ∈ b.pending ∨ .cancel c.task ∈ (b.desk c.loop).requests

theorem Due.mem_calls {H : List Deed} {b : Board} {c : CancelCall} (h : Due b c)
    (order : InOrder c.loop (about c.loop H) (b.desk c.loop)) : c ∈ calls H b.pending := by
  rcases h with hp | hr
  · exact List.mem_append_left _ (mem_pendingCalls.mpr hp)
  · have pushed := Tracks.pushed_of_waiting order (fun e he => (mem_about.mp he).2) hr
    exact List.mem_append_right _ (mem_pushedCalls.mpr (mem_about.mp pushed).1)

/-- What a queue takes waits in it. -/
theorem Bridge.Desk.Turn.queues {l : LoopId} {d d' : Desk} {ds : List Deed} (h : d.Turn l ds d')
    {r : Request} (hr : .push l r ∈ ds) : r ∈ d'.requests := by
  cases h with
  | push r' => simp_all
  | overtaken c token x phase => simp_all
  | _ => simp at hr

/-- What waits in a queue stays there until it is taken out. -/
theorem Bridge.Desk.Turn.waits {l : LoopId} {d d' : Desk} {ds : List Deed} (h : d.Turn l ds d')
    {r : Request} (hr : r ∈ d.requests) :
    r ∈ d'.requests ∨ .take l r ∈ ds ∨ d.phase = .closing := by
  cases h with
  | opened vacant =>
    subst vacant
    cases hr
  | push r' => exact .inl (List.mem_append_left _ hr)
  | takeSchedule c token i rest phase h | takeCancel id rest phase h | takeStop rest phase h
  | takeAnother rest phase h =>
    rw [h] at hr
    rcases List.mem_cons.mp hr with rfl | hr
    · exact .inr (.inl List.mem_cons_self)
    · exact .inl hr
  | overtaken c token x phase => exact .inl (List.mem_append_left _ hr)
  | leave phase => exact .inr (.inr phase)
  | _ => exact .inl hr

/-- A task is asked to cancel when a request to cancel it is taken and it is there. -/
theorem Bridge.Desk.Turn.asks {l : LoopId} {d d' : Desk} {ds : List Deed} (h : d.Turn l ds d')
    {x : Tracked} (hx : x ∈ d.armed) (ht : .take l (.cancel x.id) ∈ ds) : .ask l x.id ∈ ds := by
  cases h with
  | takeCancel id rest phase h =>
    obtain rfl : x.id = id := by simpa using ht
    rw [armed_of_tasks (by rw [phase]; rfl)] at hx
    exact List.mem_cons_of_mem _ (mem_asked.mpr ⟨rfl, x, hx, rfl⟩)
  | takeStop => simp at ht
  | _ => simp at ht

namespace System

variable {s : System} {a : Action} {ds : List Deed} {b : Board} {l : LoopId}

/-- A loop whose queue is closed, or that is about to close it, has no tasks. -/
theorem Sound.armed_of_left (h : s.Sound) (left : (s.board.desk l).isOpen = false ∨
    (s.board.desk l).phase = .closing) : (s.board.desk l).armed = [] := by
  have ledger := h.books.ledger l
  rcases left with closed | phase
  · have phase : (s.board.desk l).phase = .exited := by_contra fun hp =>
      Bool.false_ne_true (closed.symm.trans (h.opened l hp))
    exact (armed_of_tasks (by rw [phase]; rfl)).trans (ledger.exited phase).1
  · exact (armed_of_tasks (by rw [phase]; rfl)).trans (ledger.closing phase)

/-- What is left to be pushed stays so until it is, unless the queue is closed. -/
theorem Act.pending_stays (h : s.Act a ds b) {r : Request} (hr : (l, r) ∈ s.board.pending) :
    (l, r) ∈ b.pending ∨ .push l r ∈ ds ∨ (s.board.desk l).isOpen = false := by
  -- one entry is taken out of the list
  have erased {k : LoopId} {r' : Request} {pre post : List (LoopId × Request)}
      (hp : s.board.pending = pre ++ (k, r') :: post) :
      (l, r) ∈ pre ++ post ∨ (l = k ∧ r = r') := by
    rw [hp] at hr
    simp only [List.mem_append, List.mem_cons, Prod.mk.injEq] at hr ⊢
    tauto
  cases h with
  | quiet => exact .inl (List.mem_append_left _ hr)
  | submit => exact .inl (List.mem_append_left _ hr)
  | raise => exact .inl (List.mem_append_left _ hr)
  | push n k r' pre post hp =>
    refine (erased hp).imp id ?_
    rintro ⟨rfl, rfl⟩
    exact .inl (List.mem_singleton_self _)
  | refuse n k r' pre post hp closed =>
    rw [Board.answer_pending]
    refine (erased hp).imp id ?_
    rintro ⟨rfl, -⟩
    exact .inr closed
  | fail =>
    rw [Board.change_pending, Board.fail_pending]
    exact .inl hr
  | takeCancel | disown =>
    rw [Board.pending_cancelOne]
    exact .inl hr
  | takeStop =>
    rw [Board.pending_stopAll]
    exact .inl hr
  | leave =>
    rw [Board.change_pending, Board.hand_pending]
    exact .inl hr
  | _ => exact .inl hr

/-- A call stays due until the task is asked to cancel or is gone. -/
theorem Act.due (sound : s.Sound) (h : s.Act a ds b) {x : Tracked}
    (hx : x ∈ (s.board.desk l).armed) (unasked : .ask l x.id ∉ ds) (due : Due s.board ⟨l, x.id⟩) :
    Due b ⟨l, x.id⟩ := by
  have turn := h.turn l
  have there {p : Prop} (left : (s.board.desk l).isOpen = false ∨
      (s.board.desk l).phase = .closing) : p := by
    rw [sound.armed_of_left left] at hx
    cases hx
  rcases due with hp | hr
  · rcases h.pending_stays hp with hp | hp | closed
    · exact .inl hp
    · exact .inr (turn.queues (mem_about.mpr ⟨hp, rfl⟩))
    · exact there (.inl closed)
  · rcases turn.waits hr with hr | ht | phase
    · exact .inr hr
    · exact absurd (mem_about.mp (turn.asks hx ht)).1 unasked
    · exact there (.inr phase)

end System

/-! ## One task -/

/-- What the history says about a task that has been registered. -/
structure Standing (H : List Deed) (b : Board) (l : LoopId) (x : Tracked) : Prop where
  /-- it is registered on the signal that it was submitted with -/
  own : ∀ i, x.registration.signal = some i → ∃ j, .start l x.id j ⟨some i⟩ ∈ H
  /-- as long as that is not raised, its callback waits -/
  waits : ∀ i j, .start l x.id j ⟨some i⟩ ∈ H → .ask l x.id ∉ H → (b.signal i).raised = false →
    ∃ w ∈ b.waiting i, w.callback = ⟨l, x.id⟩
  /-- afterwards a request to cancel it is on its way -/
  called : ∀ i j, .start l x.id j ⟨some i⟩ ∈ H → .ask l x.id ∉ H → (b.signal i).raised = true →
    Due b ⟨l, x.id⟩

namespace Standing

variable {H ds : List Deed} {b b' : Board} {l : LoopId} {x : Tracked}

/-- A task of which the history says nothing new stands as before. -/
theorem keep (h : Standing H b l x)
    (starts : ∀ j token, .start l x.id j token ∈ H ++ ds → .start l x.id j token ∈ H)
    (waits : ∀ i, ∀ w ∈ b.waiting i, w.callback = ⟨l, x.id⟩ → (b'.signal i).raised = false →
      w ∈ b'.waiting i)
    (raised : ∀ i, (b.signal i).raised = true → (b'.signal i).raised = true)
    (due : .ask l x.id ∉ ds → Due b ⟨l, x.id⟩ → Due b' ⟨l, x.id⟩)
    (due_new : ∀ i, (b.signal i).raised = false → (b'.signal i).raised = true →
      ∀ w ∈ b.waiting i, Due b' w.callback) :
    Standing (H ++ ds) b' l x where
  own i hi := (h.own i hi).imp fun _ hs => List.mem_append_left _ hs
  waits i j hs ha hr := by
    have unraised : (b.signal i).raised = false :=
      Bool.eq_false_iff.mpr fun ht => Bool.false_ne_true (hr.symm.trans (raised i ht))
    obtain ⟨w, hw, hc⟩ :=
      h.waits i j (starts _ _ hs) (fun ha' => ha (List.mem_append_left _ ha')) unraised
    exact ⟨w, waits i w hw hc hr, hc⟩
  called i j hs ha hr := by
    have ha' : .ask l x.id ∉ H := fun ha' => ha (List.mem_append_left _ ha')
    cases hb : (b.signal i).raised with
    | true =>
      exact due (fun ha' => ha (List.mem_append_right _ ha')) (h.called i j (starts _ _ hs) ha' hb)
    | false =>
      obtain ⟨w, hw, hc⟩ := h.waits i j (starts _ _ hs) ha' hb
      exact hc ▸ due_new i hb hr w hw

/-- A task that has been asked to cancel is not registered. -/
theorem of_asked (asked : .ask l x.id ∈ H) (h : x.registration = .nothing) : Standing H b l x where
  own i hi := by
    rw [h] at hi
    cases hi
  waits _ _ _ ha := absurd asked ha
  called _ _ _ ha := absurd asked ha

end Standing

/-! ## All tasks -/

/-- How the history, the tasks, the signals and the requests to cancel fit together. -/
structure Routed (H : List Deed) (b : Board) : Prop where
  order : ∀ l, InOrder l (about l H) (b.desk l)
  tracks : ∀ l, Tracks l (about l H) (b.desk l)
  sourced : Sourced b
  listed : Listed b
  below : ∀ l id i token, .start l id i token ∈ H → id < b.nextTask
  /-- no two tasks have the same number, on whatever loops they are -/
  once : ∀ l k id i j token token', .start l id i token ∈ H → .start k id j token' ∈ H →
    l = k ∧ token = token'
  known : ∀ c ∈ calls H b.pending, Known c.loop (about c.loop H) (b.desk c.loop) c.task
  /-- the cancellation of a task is requested for its own signal only -/
  meant : ∀ c ∈ calls H b.pending, ∃ i j, .start c.loop c.task j ⟨some i⟩ ∈ H ∧
    (b.signal i).raised = true
  single : (calls H b.pending).Nodup
  standing : ∀ l, ∀ x ∈ (b.desk l).armed, Standing H b l x

namespace Routed

variable {H ds : List Deed} {b b' : Board} {l k : LoopId} {x y : Tracked}

theorem started (h : Routed H b) (hx : x ∈ (b.desk l).armed) :
    ∃ i token, .start l x.id i token ∈ H := by
  obtain ⟨i, token, hs⟩ := (h.tracks l).of_armed hx
  exact ⟨i, token, (mem_about.mp hs).1⟩

/-- Tasks that are registered are told apart by their numbers. -/
theorem eq_of_id (h : Routed H b) (hx : x ∈ (b.desk l).armed) (hy : y ∈ (b.desk k).armed)
    (same : x.id = y.id) : l = k ∧ x = y := by
  obtain ⟨i, token, hs⟩ := h.started hx
  obtain ⟨j, token', hs'⟩ := h.started hy
  obtain ⟨rfl, -⟩ := h.once l k x.id i j token token' hs (same ▸ hs')
  exact ⟨rfl, (h.tracks l).eq_of_armed hx hy same⟩

/-- As long as a callback waits, what it is to request has not been requested. -/
theorem uncalled (h : Routed H b) {i : Nat} {w : Cancellation.Waiting CancelCall}
    (hw : w ∈ b.waiting i) : w.callback ∉ calls H b.pending := by
  intro hc
  obtain ⟨x, hx, hid, he⟩ := h.listed.entered i w hw
  obtain ⟨j, hs⟩ := (h.standing _ x hx).own i (by rw [he])
  obtain ⟨i', j', hs', raised⟩ := h.meant _ hc
  rw [hid] at hs
  obtain ⟨-, ht⟩ := h.once _ _ _ _ _ _ _ hs hs'
  cases ht
  rw [h.listed.raised i raised] at hw
  cases hw

theorem ids (h : Routed H b) (l : LoopId) : ((b.desk l).armed.map (·.id)).Nodup :=
  (h.tracks l).ids.sublist ((b.desk l).armed_sublist_live.map _)

/-- The callbacks that wait on a signal are for different tasks. -/
theorem callbacks_nodup (h : Routed H b) (i : Nat) : ((b.waiting i).map (·.callback)).Nodup := by
  refine List.Nodup.map_on (fun v hv w hw he => ?_) (List.Nodup.of_map _ (h.listed.distinct i))
  obtain ⟨x, hx, hid, hr⟩ := h.listed.entered i v hv
  obtain ⟨y, hy, hid', hr'⟩ := h.listed.entered i w hw
  obtain ⟨-, rfl⟩ := h.eq_of_id hx hy (by rw [hid, hid', he])
  have same : v.id = w.id := (Cancellation.Registration.mk.inj (hr.symm.trans hr')).2
  exact List.inj_on_of_nodup_map (h.listed.distinct i) hv hw same

/-- A task that is about to be registered has not been heard of by anything but its driver. -/
theorem unheard (h : Routed H b) {c : Handle} {token : Cancellation.Token}
    (phase : (b.desk l).phase = .registering c token x) :
    (∃ j, .start l x.id j token ∈ H) ∧ .track l x.id ∉ H ∧
    ∀ d ∈ calls H b.pending, d ≠ ⟨l, x.id⟩ := by
  obtain ⟨j, hs⟩ := (h.tracks l).token c token x phase
  have untracked : .track l x.id ∉ about l H :=
    (((h.tracks l).hand x.id).mp ⟨x, by rw [phase]; rfl, rfl⟩).2
  refine ⟨⟨j, (mem_about.mp hs).1⟩, fun ht => untracked (mem_about.mpr ⟨ht, rfl⟩), ?_⟩
  rintro d hd rfl
  rcases h.known _ hd with ht | ⟨c', y, hy, -⟩
  · exact untracked ht
  · cases phase.symm.trans hy

end Routed

/-! ## What an act does to what waits -/

theorem Listed.effect {b b' : Board} {ds : List Deed} (h : Listed b) (e : Effect b ds b') :
    Listed b' := by
  cases e with
  | still signal armed =>
    exact h.still (fun i => by rw [Board.waiting, signal]; rfl) (fun i => by rw [signal])
      (fun i => by rw [signal]) (fun l x hx => by rwa [armed]) fun l x hx => .inl (by rwa [armed] at hx)
  | @arm _ _ l c token x phase waiting raised next others armed =>
    exact h.still waiting raised next (fun k y hy => (mem_armed_append others armed).mpr (.inl hy))
      fun k y hy => ((mem_armed_append others armed).mp hy).imp_right fun new => by rw [new.2]
  | register phase signal unraised here there others armed =>
    exact h.register unraised here there others armed
  | withdraw l xs signal here others kept left =>
    exact h.withdraw signal others kept fun y hy => (left y hy).imp And.left And.left
  | raise here there desk => exact h.raise here there desk

namespace Routed

variable {H ds : List Deed} {b b' : Board}

theorem single_effect (h : Routed H b) (e : Effect b ds b') :
    (calls (H ++ ds) b'.pending).Nodup := by
  cases e with
  | still signal armed fewer =>
    obtain ⟨_, perm, sub⟩ := fewer H
    exact perm.nodup_iff.mp (h.single.sublist sub)
  | @arm _ _ l c token x phase waiting raised next others armed accepting pending call =>
    rw [calls_append, pending]
    refine h.single.append ?_ fun d hd hn => ?_
    · rcases call with ⟨-, rfl⟩ | ⟨i, -, -, rfl⟩
      · exact List.nodup_nil
      · exact List.nodup_singleton _
    · rcases call with ⟨-, rfl⟩ | ⟨i, -, -, rfl⟩
      · cases hn
      · exact (h.unheard phase).2.2 d hd (List.mem_singleton.mp hn)
  | register phase signal unraised here there others armed pending =>
    rw [calls_append, pending, show pushedCalls [] = [] from rfl, List.append_nil]
    exact h.single
  | withdraw l xs signal here others kept left pending quiet =>
    rw [calls_append, pending, pushedCalls_of_quiet quiet, List.append_nil]
    exact h.single
  | @raise _ i here there desk pending =>
    refine (Effect.calls_raise i pending).nodup_iff.mpr ?_
    refine h.single.append (h.callbacks_nodup i) fun d hd hn => ?_
    obtain ⟨w, hw, rfl⟩ := List.mem_map.mp hn
    exact h.uncalled hw hd

theorem meant_effect (h : Routed H b) (e : Effect b ds b') {d : CancelCall}
    (hd : d ∈ calls (H ++ ds) b'.pending) : ∃ i j, .start d.loop d.task j ⟨some i⟩ ∈ H ++ ds ∧
      (b'.signal i).raised = true := by
  rcases e.calls_of hd with hd | ⟨l, c, token, x, i, phase, -, rfl, signal, raised⟩ |
    ⟨i, w, hw, rfl, raised⟩
  · obtain ⟨i, j, hs, hr⟩ := h.meant d hd
    exact ⟨i, j, List.mem_append_left _ hs, e.raised h.listed.plain hr⟩
  · obtain ⟨⟨j, hs⟩, -⟩ := h.unheard phase
    cases token
    cases signal
    exact ⟨i, j, List.mem_append_left _ hs, raised⟩
  · obtain ⟨x, hx, hid, he⟩ := h.listed.entered i w hw
    obtain ⟨j, hs⟩ := (h.standing _ x hx).own i (by rw [he])
    exact ⟨i, j, List.mem_append_left _ (hid ▸ hs), raised⟩

theorem known_effect (h : Routed H b) (e : Effect b ds b')
    (turn : ∀ l, (b.desk l).Turn l (about l ds) (b'.desk l)) {d : CancelCall}
    (hd : d ∈ calls (H ++ ds) b'.pending) :
    Known d.loop (about d.loop (H ++ ds)) (b'.desk d.loop) d.task := by
  rw [about_append]
  rcases e.calls_of hd with hd | ⟨l, c, token, x, i, -, accepting, rfl, -⟩ | ⟨i, w, hw, rfl, -⟩
  · exact (h.known d hd).turn (turn d.loop)
  · exact .inr ⟨c, _, accepting, rfl⟩
  · obtain ⟨x, hx, hid, -⟩ := h.listed.entered i w hw
    exact hid ▸ ((h.tracks _).known hx).turn (turn _)

/-- A task that has been there stands as before if its callback still waits. -/
theorem standing_old (h : Routed H b) (e : Effect b ds b')
    (fresh : ∀ l id j token, .start l id j token ∈ ds → id = b.nextTask) {l : LoopId} {x : Tracked}
    (hx : x ∈ (b.desk l).armed) (due : .ask l x.id ∉ ds → Due b ⟨l, x.id⟩ → Due b' ⟨l, x.id⟩)
    (waits : ∀ i, ∀ w ∈ b.waiting i, w.callback = ⟨l, x.id⟩ → (b'.signal i).raised = false →
      w ∈ b'.waiting i) : Standing (H ++ ds) b' l x := by
  refine (h.standing l x hx).keep (fun j token hs => ?_) waits
    (fun i hr => e.raised h.listed.plain hr) due
    (fun i hb hr w hw => .inl (e.pending_raised h.listed.plain hb hr hw))
  refine (List.mem_append.mp hs).resolve_right fun hs => ?_
  obtain ⟨i, token', hs'⟩ := h.started hx
  exact absurd (h.below _ _ _ _ hs') (by rw [fresh _ _ _ _ hs]; exact Nat.lt_irrefl _)

section

variable {l : LoopId} {c : Handle} {token : Cancellation.Token} {x : Tracked} {i : Nat}

/-- The token that a task is about to be registered with is its own. -/
theorem signal_eq (h : Routed H b) (phase : (b.desk l).phase = .registering c token x) {j : Nat}
    (hs : .start l x.id j ⟨some i⟩ ∈ H) : token.signal = some i := by
  obtain ⟨⟨j', hs'⟩, -⟩ := h.unheard phase
  rw [(h.once _ _ _ _ _ _ _ hs' hs).2]

/-- A task that is not registered has no signal, or its cancellation is requested at once. -/
theorem standing_armed (h : Routed H b) (phase : (b.desk l).phase = .registering c token x)
    (raised : ∀ i, (b'.signal i).raised = (b.signal i).raised)
    (call : (token.signal = none ∧ ds = []) ∨ ∃ i, token.signal = some i ∧
      (b.signal i).raised = true ∧ ds = [.push l (.cancel x.id)])
    (turn : (b.desk l).Turn l (about l ds) (b'.desk l)) :
    Standing (H ++ ds) b' l { x with registration := .nothing } := by
  have own {i j : Nat} (hs : .start l x.id j ⟨some i⟩ ∈ H ++ ds) : token.signal = some i := by
    refine h.signal_eq phase ((List.mem_append.mp hs).resolve_right fun hs => ?_)
    rcases call with ⟨-, rfl⟩ | ⟨i, -, -, rfl⟩ <;> simp at hs
  refine ⟨by rintro _ ⟨⟩, fun i j hs ha hr => ?_, fun i j hs ha hr => ?_⟩
  · rcases call with ⟨none, -⟩ | ⟨i', some, hr', -⟩
    · cases none.symm.trans (own hs)
    · cases some.symm.trans (own hs)
      exact absurd (hr.symm.trans ((raised i).trans hr')) Bool.false_ne_true
  · rcases call with ⟨none, -⟩ | ⟨i', -, -, rfl⟩
    · cases none.symm.trans (own hs)
    · exact .inr (turn.queues (mem_about.mpr ⟨List.mem_singleton_self _, rfl⟩))

/-- The callback of a task that is registered waits on its signal. -/
theorem standing_registered (h : Routed H b) (phase : (b.desk l).phase = .registering c token x)
    (signal : token.signal = some i) (unraised : (b.signal i).raised = false)
    (here : b'.signal i = ((b.signal i).register ⟨l, x.id⟩ []).2) :
    Standing H b' l { x with registration := ⟨some i, (b.signal i).nextId⟩ } := by
  rw [Board.signal_register unraised] at here
  refine ⟨fun i' hi => ?_, fun i' j hs ha hr => ?_, fun i' j hs ha hr => ?_⟩
  · cases hi
    cases token
    cases signal
    exact (h.unheard phase).1
  · cases signal.symm.trans (h.signal_eq phase hs)
    refine ⟨⟨(b.signal i).nextId, ⟨l, x.id⟩, []⟩, ?_, rfl⟩
    rw [Board.waiting, here]
    exact List.mem_append_right _ (List.mem_singleton_self _)
  · cases signal.symm.trans (h.signal_eq phase hs)
    rw [here] at hr
    exact absurd (unraised.symm.trans hr) Bool.false_ne_true

/-- The callback of a task that is not withdrawn is not taken out. -/
theorem waits_giveUpAll (h : Routed H b) {k : LoopId} {xs : List Tracked}
    (there : ∀ z ∈ xs, z ∈ (b.desk k).armed) (hx : x ∈ (b.desk l).armed) (stays : l = k → x ∉ xs)
    {w : Cancellation.Waiting CancelCall} (hw : w ∈ b.waiting i) (hc : w.callback = ⟨l, x.id⟩) :
    w ∈ (b.giveUpAll xs).waiting i := by
  rw [Board.waiting, Board.signal_giveUpAll h.listed.plain]
  refine List.mem_filter.mpr ⟨hw, List.all_eq_true.mpr fun z hz => bne_iff_ne.mpr fun he => ?_⟩
  have owner := h.listed.owner k z (there z hz) i w hw he
  obtain ⟨rfl, hid⟩ := CancelCall.mk.inj (hc.symm.trans owner)
  obtain ⟨-, rfl⟩ := h.eq_of_id hx (there z hz) hid
  exact stays rfl hz

end

theorem standing_effect (h : Routed H b) (e : Effect b ds b')
    (turn : ∀ l, (b.desk l).Turn l (about l ds) (b'.desk l))
    (fresh : ∀ l id j token, .start l id j token ∈ ds → id = b.nextTask)
    (due : ∀ l, ∀ x ∈ (b.desk l).armed, .ask l x.id ∉ ds → Due b ⟨l, x.id⟩ → Due b' ⟨l, x.id⟩)
    (l : LoopId) (y : Tracked) (hy : y ∈ (b'.desk l).armed) : Standing (H ++ ds) b' l y := by
  have old (hy : y ∈ (b.desk l).armed) := h.standing_old e fresh hy (due l y hy)
  cases e with
  | still signal armed =>
    rw [armed] at hy
    exact old hy fun i w hw _ _ => by rwa [Board.waiting, signal]
  | arm phase waiting raised next others armed accepting pending call =>
    rcases (mem_armed_append others armed).mp hy with hy | ⟨rfl, rfl⟩
    · exact old hy fun i w hw _ _ => by rwa [waiting]
    · exact h.standing_armed phase raised call (turn _)
  | register phase signal unraised here there others armed =>
    rcases (mem_armed_append others armed).mp hy with hy | ⟨rfl, rfl⟩
    · exact old hy fun j w hw _ _ =>
        (mem_waiting_register unraised here there).mpr (.inl hw)
    · rw [List.append_nil]
      exact h.standing_registered phase signal unraised here
  | withdraw k xs signal here others kept left =>
    have waits (hy : y ∈ (b.desk l).armed) (stays : l = k → y ∉ xs) : ∀ i, ∀ w ∈ b.waiting i,
        w.callback = ⟨l, y.id⟩ → (b'.signal i).raised = false → w ∈ b'.waiting i := by
      intro i w hw hc _
      rw [Board.waiting, signal]
      exact h.waits_giveUpAll here hy stays hw hc
    by_cases hk : l = k
    · subst hk
      rcases left y hy with ⟨hy, hn⟩ | ⟨hn, ha⟩
      · exact old hy (waits hy fun _ => hn)
      · exact .of_asked (List.mem_append_right _ ha) hn
    · rw [others l hk] at hy
      exact old hy (waits hy fun same => absurd same hk)
  | @raise _ i here there desk pending =>
    rw [desk] at hy
    refine old hy fun j w hw _ hr => ?_
    by_cases hj : j = i
    · subst hj
      rw [here] at hr
      cases hr
    · rwa [Board.waiting, there j hj]

end Routed

namespace System

variable {s : System} {a : Action} {H ds : List Deed} {b : Board}

theorem Act.routed (sound : s.Sound) (h : Routed H s.board) (act : s.Act a ds b)
    (made : ∀ t l awaitable token, a = .submit t l awaitable token →
      token.Within s.board.signals.size) : Routed (H ++ ds) b := by
  have e := act.effect h.listed h.ids fun l c token x phase =>
    h.sourced.held l token (by rw [phase]; rfl)
  have turn := act.turn
  have fresh {l id i token} (hs : .start l id i token ∈ ds) := act.numbers hs
  have known {d : CancelCall} (hd : d ∈ calls (H ++ ds) b.pending) := h.known_effect e turn hd
  exact {
    order := fun l => about_append l H ds ▸ (h.order l).turn (turn l)
    tracks := fun l => by
      rw [about_append]
      refine (h.tracks l).turn (h.order l) (fun e he => (mem_about.mp he).2) (turn l)
        (fun id i token hs j token' hs' => ?_) fun id hp => ?_
      · have := h.below _ _ _ _ (mem_about.mp hs').1
        rw [(fresh (mem_about.mp hs).1).2.1] at this
        exact Nat.lt_irrefl _ this
      · rw [← about_append]
        refine known (d := ⟨l, id⟩) ?_
        rw [calls_append]
        exact List.mem_append_right _ (mem_pushedCalls.mpr (mem_about.mp hp).1)
    sourced := h.sourced.act act made
    listed := h.listed.effect e
    below := fun l id i token hs => by
      rcases List.mem_append.mp hs with hs | hs
      · exact Nat.lt_of_lt_of_le (h.below l id i token hs) act.nextTask_le
      · obtain ⟨-, rfl, next⟩ := fresh hs
        rw [next]
        exact Nat.lt_succ_self _
    once := fun l k id i j token token' hs hs' => by
      rcases List.mem_append.mp hs with hs | hs <;> rcases List.mem_append.mp hs' with hs' | hs'
      · exact h.once l k id i j token token' hs hs'
      · exact absurd (h.below _ _ _ _ hs) (by rw [(fresh hs').2.1]; exact Nat.lt_irrefl _)
      · exact absurd (h.below _ _ _ _ hs') (by rw [(fresh hs).2.1]; exact Nat.lt_irrefl _)
      · rw [(fresh hs).1] at hs'
        cases List.mem_singleton.mp hs'
        exact ⟨rfl, rfl⟩
    known := fun d hd => known hd
    meant := fun d hd => h.meant_effect e hd
    single := h.single_effect e
    standing := h.standing_effect e turn (fun l id j token hs => (fresh hs).2.1)
      fun l x hx ha due => act.due sound hx ha due }

end System

end EmbeddedPython
