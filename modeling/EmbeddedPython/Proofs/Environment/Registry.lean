import EmbeddedPython.Proofs.Environment.Act

/-
  Signals and registrations

  The callbacks that wait on the signals and the registrations of the tasks
  match: what waits belongs to one task that is there, and what becomes of the
  task becomes of its callback. The callbacks of the bridge own no
  registrations, so giving one up takes one callback out of one list.
-/

namespace EmbeddedPython

open Bridge

namespace Bridge

/-- The task that a driver is about to keep track of. -/
def Phase.accepting? : Phase → Option Tracked
  | accepting _ x => some x
  | _ => none

/-- The tasks of a driver, with the one that it is about to keep track of. They have been
registered. -/
def Desk.armed (d : Desk) : List Tracked := d.tasks ++ d.phase.accepting?.toList

end Bridge

namespace Board

/-- The callbacks that wait on a signal. -/
def waiting (b : Board) (i : Nat) : List (Cancellation.Waiting CancelCall) := (b.signal i).waiting

variable {b : Board} {i : Nat}

theorem signal_putSignal (b : Board) (i : Nat) (s : Cancellation.Signal CancelCall) (j : Nat) :
    (b.putSignal i s).signal j = if j = i ∧ i < b.signals.size then s else b.signal j :=
  Cancellation.getD_setIfInBounds b.signals i s j

/-- A signal that is not there is as good as a new one. -/
theorem signal_of_size_le (h : b.signals.size ≤ i) : b.signal i = Cancellation.Signal.fresh :=
  Cancellation.getD_of_size_le h

theorem signal_giveUp (plain : ∀ i, ∀ w ∈ b.waiting i, w.owns = [])
    (r : Cancellation.Registration) (i : Nat) : (b.giveUp r).signal i =
      { b.signal i with
        waiting := (b.waiting i).filter fun w => r != ⟨some i, w.id⟩ } :=
  Cancellation.getD_without b.signals plain r i

theorem signal_giveUpAll (plain : ∀ i, ∀ w ∈ b.waiting i, w.owns = []) (xs : List Tracked)
    (i : Nat) : (b.giveUpAll xs).signal i =
      { b.signal i with
        waiting := (b.waiting i).filter fun w => xs.all fun x =>
          x.registration != ⟨some i, w.id⟩ } := by
  induction xs generalizing b with
  | nil =>
    have all : (b.waiting i).filter (fun w => ([] : List Tracked).all fun x =>
        x.registration != ⟨some i, w.id⟩) = b.waiting i := List.filter_eq_self.mpr fun w _ => rfl
    rw [all]
    rfl
  | cons x xs ih =>
    have plain' (i : Nat) : ∀ w ∈ (b.giveUp x.registration).waiting i, w.owns = [] := by
      rw [waiting, signal_giveUp plain]
      exact fun w hw => plain i w (List.mem_of_mem_filter hw)
    refine (ih plain').trans ?_
    rw [waiting, signal_giveUp plain, List.filter_filter]
    refine congrArg (Cancellation.Signal.mk _ _) (List.filter_congr fun w _ => ?_)
    rw [List.all_cons, Bool.and_comm]

end Board

/-! ## One more task, and one more callback -/

section

variable {b b' : Board} {l : LoopId} {x : Tracked}

theorem mem_armed_append (others : ∀ k, k ≠ l → (b'.desk k).armed = (b.desk k).armed)
    (armed : (b'.desk l).armed = (b.desk l).armed ++ [x]) {k : LoopId} {y : Tracked} :
    y ∈ (b'.desk k).armed ↔ y ∈ (b.desk k).armed ∨ k = l ∧ y = x := by
  by_cases hk : k = l
  · subst hk
    rw [armed, List.mem_append, List.mem_singleton]
    simp
  · rw [others k hk]
    simp [hk]

variable {i : Nat} {call : CancelCall} (unraised : (b.signal i).raised = false)
include unraised

theorem Board.signal_register : ((b.signal i).register call []).2 = { b.signal i with
    waiting := b.waiting i ++ [⟨(b.signal i).nextId, call, []⟩]
    nextId := (b.signal i).nextId + 1 } := by
  rw [Cancellation.Signal.register_of_unraised _ _ unraised]
  rfl

variable (here : b'.signal i = ((b.signal i).register call []).2)
  (there : ∀ j, j ≠ i → b'.signal j = b.signal j)
include here there

theorem mem_waiting_register {j : Nat} {w : Cancellation.Waiting CancelCall} :
    w ∈ b'.waiting j ↔ w ∈ b.waiting j ∨ j = i ∧ w = ⟨(b.signal i).nextId, call, []⟩ := by
  by_cases hj : j = i
  · subst hj
    rw [Board.waiting, here, Board.signal_register unraised, List.mem_append, List.mem_singleton]
    simp
  · rw [Board.waiting, there j hj]
    simp [hj, Board.waiting]

theorem nextId_le_register (j : Nat) : (b.signal j).nextId ≤ (b'.signal j).nextId := by
  by_cases hj : j = i
  · rw [hj, here, Board.signal_register unraised]
    exact Nat.le_succ _
  · rw [there j hj]

end

/-! ## What waits on the signals -/

/-- Callbacks and registrations match. -/
structure Listed (b : Board) : Prop where
  plain : ∀ i, ∀ w ∈ b.waiting i, w.owns = []
  distinct : ∀ i, ((b.waiting i).map (·.id)).Nodup
  below : ∀ i, ∀ w ∈ b.waiting i, w.id < (b.signal i).nextId
  /-- nothing waits on a signal that has been raised -/
  raised : ∀ i, (b.signal i).raised = true → b.waiting i = []
  /-- what waits on a signal belongs to a registered task -/
  entered : ∀ i, ∀ w ∈ b.waiting i, ∃ x ∈ (b.desk w.callback.loop).armed,
    x.id = w.callback.task ∧ x.registration = ⟨some i, w.id⟩
  numbered : ∀ l, ∀ x ∈ (b.desk l).armed, ∀ i, x.registration.signal = some i →
    x.registration.id < (b.signal i).nextId
  owner : ∀ l, ∀ x ∈ (b.desk l).armed, ∀ i, ∀ w ∈ b.waiting i, x.registration = ⟨some i, w.id⟩ →
    w.callback = ⟨l, x.id⟩

namespace Listed

variable {b b' : Board} {l : LoopId}

/-- Callbacks are only taken out, those of tasks that stay stay, and new tasks are not registered. -/
theorem shrink (h : Listed b) (sub : ∀ i, (b'.waiting i).Sublist (b.waiting i))
    (next : ∀ i, (b.signal i).nextId ≤ (b'.signal i).nextId)
    (raised : ∀ i, (b'.signal i).raised = true → (b.signal i).raised = true ∨ b'.waiting i = [])
    (kept : ∀ i, ∀ w ∈ b'.waiting i, ∀ x ∈ (b.desk w.callback.loop).armed,
      x.registration = ⟨some i, w.id⟩ → x ∈ (b'.desk w.callback.loop).armed)
    (fresh : ∀ l, ∀ x ∈ (b'.desk l).armed, x ∈ (b.desk l).armed ∨ x.registration = .nothing) :
    Listed b' where
  plain i w hw := h.plain i w ((sub i).subset hw)
  distinct i := (h.distinct i).sublist ((sub i).map _)
  below i w hw := Nat.lt_of_lt_of_le (h.below i w ((sub i).subset hw)) (next i)
  raised i hr := (raised i hr).elim (fun hr => List.sublist_nil.mp (h.raised i hr ▸ sub i)) id
  entered i w hw := by
    obtain ⟨x, hx, hid, he⟩ := h.entered i w ((sub i).subset hw)
    exact ⟨x, kept i w hw x hx he, hid, he⟩
  numbered l x hx i hi := by
    rcases fresh l x hx with hx | hr
    · exact Nat.lt_of_lt_of_le (h.numbered l x hx i hi) (next i)
    · rw [hr] at hi
      cases hi
  owner l x hx i w hw he := by
    rcases fresh l x hx with hx | hr
    · exact h.owner l x hx i w ((sub i).subset hw) he
    · rw [hr] at he
      cases he

/-- Nothing happens to what waits, and new tasks are not registered. -/
theorem still (h : Listed b) (waiting : ∀ i, b'.waiting i = b.waiting i)
    (raised : ∀ i, (b'.signal i).raised = (b.signal i).raised)
    (next : ∀ i, (b.signal i).nextId ≤ (b'.signal i).nextId)
    (kept : ∀ l, ∀ x ∈ (b.desk l).armed, x ∈ (b'.desk l).armed)
    (fresh : ∀ l, ∀ x ∈ (b'.desk l).armed, x ∈ (b.desk l).armed ∨ x.registration = .nothing) :
    Listed b' :=
  h.shrink (fun i => waiting i ▸ List.Sublist.refl _) next (fun i hr => .inl (raised i ▸ hr))
    (fun _ _ _ x hx _ => kept _ x hx) fresh

/-- A task is registered on a signal. -/
theorem register (h : Listed b) {i : Nat} {x : Tracked}
    (unraised : (b.signal i).raised = false)
    (here : b'.signal i = ((b.signal i).register ⟨l, x.id⟩ []).2)
    (there : ∀ j, j ≠ i → b'.signal j = b.signal j)
    (others : ∀ k, k ≠ l → (b'.desk k).armed = (b.desk k).armed)
    (armed : (b'.desk l).armed =
      (b.desk l).armed ++ [{ x with registration := ⟨some i, (b.signal i).nextId⟩ }]) :
    Listed b' := by
  have next := nextId_le_register unraised here there
  have signal := here.trans (Board.signal_register unraised)
  refine ⟨fun j w hj => ?_, fun j => ?_, fun j w hj => ?_, fun j hj => ?_, fun j w hj => ?_,
    fun k y hy j hj => ?_, fun k y hy j w hj he => ?_⟩
  · rcases (mem_waiting_register unraised here there).mp hj with hj | ⟨-, rfl⟩
    · exact h.plain j w hj
    · rfl
  · by_cases hj : j = i
    · subst hj
      rw [Board.waiting, signal, List.map_append]
      refine (h.distinct j).append (List.nodup_singleton _) ?_
      rw [List.map_singleton, List.disjoint_singleton]
      intro hm
      obtain ⟨w, hw, he⟩ := List.mem_map.mp hm
      exact absurd (h.below j w hw) (by rw [he]; exact Nat.lt_irrefl _)
    · rw [Board.waiting, there j hj]
      exact h.distinct j
  · rcases (mem_waiting_register unraised here there).mp hj with hj | ⟨rfl, rfl⟩
    · exact Nat.lt_of_lt_of_le (h.below j w hj) (next j)
    · rw [signal]
      exact Nat.lt_succ_self _
  · by_cases hi : j = i
    · subst hi
      rw [signal] at hj
      exact absurd (unraised.symm.trans hj) Bool.false_ne_true
    · rw [there j hi] at hj
      rw [Board.waiting, there j hi]
      exact h.raised j hj
  · rcases (mem_waiting_register unraised here there).mp hj with hj | ⟨rfl, rfl⟩
    · obtain ⟨y, hy, hid, he⟩ := h.entered j w hj
      exact ⟨y, (mem_armed_append others armed).mpr (.inl hy), hid, he⟩
    · exact ⟨_, (mem_armed_append others armed).mpr (.inr ⟨rfl, rfl⟩), rfl, rfl⟩
  · rcases (mem_armed_append others armed).mp hy with hy | ⟨rfl, rfl⟩
    · exact Nat.lt_of_lt_of_le (h.numbered k y hy j hj) (next j)
    · cases hj
      rw [signal]
      exact Nat.lt_succ_self _
  · rcases (mem_armed_append others armed).mp hy with hy | ⟨rfl, rfl⟩ <;>
      rcases (mem_waiting_register unraised here there).mp hj with hj | ⟨rfl, rfl⟩
    · exact h.owner k y hy j w hj he
    · -- an earlier registration has a smaller number
      have := h.numbered k y hy j (by rw [he])
      rw [he] at this
      exact absurd this (Nat.lt_irrefl _)
    · obtain ⟨hi, hid⟩ := Cancellation.Registration.mk.inj he
      cases hi
      exact absurd (h.below i w hj) (by rw [← hid]; exact Nat.lt_irrefl _)
    · rfl

/-- The registrations of some tasks are given up. -/
theorem withdraw (h : Listed b) {xs : List Tracked}
    (signal : ∀ i, b'.signal i = (b.giveUpAll xs).signal i)
    (others : ∀ k, k ≠ l → (b'.desk k).armed = (b.desk k).armed)
    (kept : ∀ x ∈ (b.desk l).armed, x ∈ xs ∨ x ∈ (b'.desk l).armed)
    (fresh : ∀ x ∈ (b'.desk l).armed, x ∈ (b.desk l).armed ∨ x.registration = .nothing) :
    Listed b' := by
  have eq (i : Nat) := (signal i).trans (Board.signal_giveUpAll h.plain xs i)
  refine h.shrink (fun i => ?_) (fun i => ?_) (fun i hr => ?_) (fun i w hw x hx he => ?_)
    fun k y hy => ?_
  · rw [Board.waiting, eq]
    exact List.filter_sublist
  · rw [eq]
  · rw [eq] at hr
    exact .inl hr
  · by_cases hk : w.callback.loop = l
    · rw [hk] at hx ⊢
      refine (kept x hx).resolve_left fun hm => ?_
      rw [Board.waiting, eq] at hw
      have given := List.all_eq_true.mp (List.mem_filter.mp hw).2 x hm
      exact bne_iff_ne.mp given he
    · rwa [others _ hk]
  · by_cases hk : k = l
    · subst hk
      exact fresh y hy
    · rw [others k hk] at hy
      exact .inl hy

/-- A signal is raised, and nothing waits on it any more. -/
theorem raise (h : Listed b) {i : Nat}
    (here : b'.signal i = { b.signal i with raised := true, waiting := [] })
    (there : ∀ j, j ≠ i → b'.signal j = b.signal j) (desk : b'.desk = b.desk) : Listed b' := by
  have eq (j : Nat) : b'.signal j = b.signal j ∨
      b'.signal j = { b.signal j with raised := true, waiting := [] } := by
    by_cases hj : j = i
    · exact .inr (hj ▸ here)
    · exact .inl (there j hj)
  refine h.shrink (fun j => ?_) (fun j => ?_) (fun j hr => ?_) (fun _ _ _ x hx _ => by rwa [desk])
    fun k y hy => .inl (by rwa [desk] at hy)
  · rcases eq j with h | h <;> rw [Board.waiting, h]
    · exact List.Sublist.refl _
    · exact List.nil_sublist _
  · rcases eq j with h | h <;> rw [h]
  · rcases eq j with h | h
    · exact .inl (h ▸ hr)
    · exact .inr (by rw [Board.waiting, h])

end Listed

end EmbeddedPython
