import EmbeddedPython.Proofs.Environment.Acting

/-
  The turns of one desk

  An act has to do with one loop only. Seen from a loop, with only the deeds
  that are about it, whatever happens is one of a few turns of its desk. What
  concerns the order of the requests of one loop is proved from the turns.
-/

namespace EmbeddedPython

open Bridge

namespace Deed

/-- The loop that a deed is about. -/
def loop : Deed → LoopId
  | push l _ | take l _ | clear l _ | start l _ _ _ | reject l _ _ | track l _ | ask l _
  | finish l _ => l

end Deed

/-- The deeds that are about a loop. -/
def about (l : LoopId) (deeds : List Deed) : List Deed := deeds.filter (·.loop == l)

theorem about_append (l : LoopId) (a b : List Deed) : about l (a ++ b) = about l a ++ about l b :=
  List.filter_append ..

theorem mem_about {l : LoopId} {deeds : List Deed} {d : Deed} :
    d ∈ about l deeds ↔ d ∈ deeds ∧ d.loop = l := by
  simp [about]

theorem about_of_all {l : LoopId} {deeds : List Deed} (h : ∀ d ∈ deeds, d.loop = l) :
    about l deeds = deeds :=
  List.filter_eq_self.mpr fun d hd => beq_iff_eq.mpr (h d hd)

theorem about_of_other {l k : LoopId} (hk : k ≠ l) {deeds : List Deed}
    (h : ∀ d ∈ deeds, d.loop = l) : about k deeds = [] :=
  List.filter_eq_nil_iff.mpr fun d hd hd' => hk ((beq_iff_eq.mp hd').symm.trans (h d hd))

namespace Bridge.Desk

/-- The desk with its tasks asked to cancel, those that are meant. -/
def withdraw (d : Desk) (p : TaskId → Bool) : Desk :=
  { d with tasks := d.tasks.map fun y => if p y.id then y.withdrawn else y }

/-- What can happen to a desk, with the deeds that are about its loop. -/
inductive Turn (l : LoopId) (d : Desk) : List Deed → Desk → Prop where
  | idle : Turn l d [] d
  | opened (vacant : d = Desk.vacant) : Turn l d [] Desk.fresh
  | push (r : Request) (isOpen : d.isOpen = true) :
      Turn l d [.push l r] { d with requests := d.requests ++ [r] }
  | go (phase : Bridge.Phase) (h : d.Goes phase) : Turn l d [] { d with phase := phase }
  | fail (phase : d.phase = .entering ∨ ∃ n, d.phase = .iterating n) :
      Turn l d (d.tasks.map fun x => .finish l x.id) { d with tasks := [], phase := .closing }
  | takeSchedule (coroutine : Handle) (token : Cancellation.Token) (i : PromiseId)
      (rest : List Request) (phase : d.phase = .draining)
      (h : d.requests = .schedule coroutine token i :: rest) :
      Turn l d [.take l (.schedule coroutine token i)]
        { d with requests := rest, phase := .starting coroutine token i }
  | takeCancel (id : TaskId) (rest : List Request) (phase : d.phase = .draining)
      (h : d.requests = .cancel id :: rest) :
      Turn l d (.take l (.cancel id) ::
          (d.tasks.find? (·.id == id)).toList.map fun x => .ask l x.id)
        ({ d with requests := rest }.withdraw (· == id))
  | takeStop (rest : List Request) (phase : d.phase = .draining) (h : d.requests = .stop :: rest)
      (running : d.stopping = false) :
      Turn l d (.take l .stop :: d.tasks.map fun x => .ask l x.id)
        ({ d with requests := rest, stopping := true }.withdraw fun _ => true)
  /-- a further request to stop -/
  | takeAnother (rest : List Request) (phase : d.phase = .draining)
      (h : d.requests = .stop :: rest) (stopping : d.stopping = true) :
      Turn l d [.take l .stop] { d with requests := rest }
  | reject (coroutine : Handle) (token : Cancellation.Token) (i : PromiseId) (why : Refusal)
      (phase : d.phase = .starting coroutine token i) (h : why = .stopping ↔ d.stopping = true) :
      Turn l d [.reject l i why] { d with phase := .draining }
  | start (coroutine : Handle) (token : Cancellation.Token) (i : PromiseId) (x : Tracked)
      (phase : d.phase = .starting coroutine token i) (running : d.stopping = false) :
      Turn l d [.start l x.id i token] { d with phase := .registering coroutine token x }
  | register (coroutine : Handle) (token : Cancellation.Token) (x : Tracked)
      (r : Cancellation.Registration) (phase : d.phase = .registering coroutine token x) :
      Turn l d [] { d with phase := .accepting coroutine { x with registration := r } }
  | overtaken (coroutine : Handle) (token : Cancellation.Token) (x : Tracked)
      (phase : d.phase = .registering coroutine token x) :
      Turn l d [.push l (.cancel x.id)] { d with
        requests := d.requests ++ [.cancel x.id]
        phase := .accepting coroutine { x with registration := .nothing } }
  | accept (coroutine : Handle) (x : Tracked) (phase : d.phase = .accepting coroutine x) :
      Turn l d [.track l x.id] { d with tasks := d.tasks ++ [x], phase := .draining }
  | disown (coroutine : Handle) (x : Tracked) (phase : d.phase = .accepting coroutine x) :
      Turn l d [.track l x.id, .ask l x.id]
        ({ d with tasks := d.tasks ++ [x], phase := .draining }.withdraw (· == x.id))
  | conclude (n : Nat) (x : Tracked) (phase : d.phase = .concluding n)
      (here : d.tasks[n]? = some x) :
      Turn l d [.finish l x.id] { d with tasks := d.tasks.eraseIdx n }
  | leave (phase : d.phase = .closing) :
      Turn l d (d.requests.map (.clear l))
        { d with requests := [], isOpen := false, phase := .exited }

end Bridge.Desk

namespace System

variable {s : System}

/-- An act that changes one desk is a turn of that desk and idle for the others. -/
theorem turn_of_change {ds : List Deed} {b : Board} (l : LoopId)
    (others : ∀ k, k ≠ l → b.desk k = s.board.desk k) (hd : ∀ d ∈ ds, d.loop = l)
    (h : (s.board.desk l).Turn l ds (b.desk l)) (k : LoopId) :
    (s.board.desk k).Turn k (about k ds) (b.desk k) := by
  by_cases hk : k = l
  · subst hk
    rw [about_of_all hd]
    exact h
  · rw [about_of_other hk hd, others k hk]
    exact .idle

/-- An act that leaves the desks alone but for a change of one is a turn of this one. -/
theorem turn_of_desk {ds : List Deed} {b : Board} {l : LoopId} {f : Desk → Desk}
    (desk : b.desk = s.board.desk) (hd : ∀ d ∈ ds, d.loop = l)
    (h : (s.board.desk l).Turn l ds (f (s.board.desk l))) (k : LoopId) :
    (s.board.desk k).Turn k (about k ds) ((b.change l f).desk k) := by
  refine turn_of_change l (fun k hk => ?_) hd ?_ k
  · rw [Board.change_desk_of_ne _ hk, desk]
  · rw [Board.change_desk_self, desk]
    exact h

/-- Every act is a turn of each desk. -/
theorem Act.turn {a : Action} {ds : List Deed} {b : Board} (h : s.Act a ds b) (k : LoopId) :
    (s.board.desk k).Turn k (about k ds) (b.desk k) := by
  cases h with
  | quiet | submit | source | raise | wait => exact .idle
  | openLoop a vacant other => exact turn_of_desk (by rfl) (by simp) (.opened vacant) k
  | push n l r before after h isOpen =>
    exact turn_of_desk (by rfl) (by simp [Deed.loop]) (.push r isOpen) k
  | refuse n l r before after h closed =>
    rw [Board.answer_desk]
    exact .idle
  | go l phase h runs => exact turn_of_desk (by rfl) (by simp) (.go phase h) k
  | fail l e h =>
    refine turn_of_desk (Board.fail_desk _ _ _) (by simp [Deed.loop]) (.fail ?_) k
    cases h with
    | closed phase => exact .inl phase
    | raised phase => exact .inr ⟨_, phase⟩
  | takeSchedule l coroutine token i rest phase h =>
    exact turn_of_desk (by rfl) (by simp [Deed.loop]) (.takeSchedule coroutine token i rest phase h) k
  | takeCancel l id rest phase h =>
    refine turn_of_change l (fun k hk => ?_) (by simp [Deed.loop]) ?_ k
    · rw [Board.cancelOne_of_ne _ hk, Board.change_desk_of_ne _ hk]
    · rw [Board.cancelOne_self, Board.change_desk_self, ← phase]
      exact .takeCancel id rest phase h
  | takeStop l rest phase h =>
    refine turn_of_change l (fun k hk => ?_) ?_ ?_ k
    · rw [Board.stopAll_of_ne _ hk, Board.change_desk_of_ne _ hk]
    · cases (s.board.desk l).stopping <;> simp [Deed.loop]
    · rw [Board.stopAll_self, Board.change_desk_self, ← phase]
      cases hs : (s.board.desk l).stopping with
      | true =>
        rw [if_pos rfl, if_pos rfl, ← hs]
        exact .takeAnother rest phase h hs
      | false => exact .takeStop rest phase h hs
  | reject l coroutine token i why phase h =>
    refine turn_of_desk (by rfl) (by simp [Deed.loop])
      (.reject coroutine token i why phase ?_) k
    rcases h with ⟨rfl, h⟩ | ⟨rfl, h, -⟩ <;> simp [h]
  | unprepared l coroutine token i e phase running unrequested h =>
    exact turn_of_desk (by rfl) (by simp [Deed.loop])
      (.reject coroutine token i .failed phase (by simp [running])) k
  | start l coroutine token i task done phase running unrequested h =>
    exact turn_of_desk (by rfl) (by simp [Deed.loop])
      (.start coroutine token i ⟨s.board.nextTask, task, done, i, .nothing⟩ phase running) k
  | skip l coroutine token x phase h =>
    exact turn_of_desk (by rfl) (by simp) (.register coroutine token x .nothing phase) k
  | register l coroutine token x i phase h unraised =>
    exact turn_of_desk (by rfl) (by simp) (.register coroutine token x _ phase) k
  | overtaken l coroutine token x i phase h raised isOpen =>
    exact turn_of_desk (by rfl) (by simp [Deed.loop]) (.overtaken coroutine token x phase) k
  | accept l coroutine x phase awaited =>
    exact turn_of_desk (by rfl) (by simp [Deed.loop])
      (.accept coroutine x phase) k
  | disown l coroutine x phase abandoned =>
    refine turn_of_change l (fun k hk => ?_) (by simp [Deed.loop]) ?_ k
    · rw [Board.cancelOne_of_ne _ hk, Board.change_desk_of_ne _ hk, Board.tell_desk]
    · rw [Board.cancelOne_self, Board.change_desk_self, Board.tell_desk]
      exact .disown coroutine x phase
  | conclude l n x outcome phase here h =>
    exact turn_of_desk (by rfl) (by simp [Deed.loop]) (.conclude n x phase here) k
  | leave l phase =>
    exact turn_of_desk (Board.hand_desk _ _) (by simp [Deed.loop]) (.leave phase) k

/-! ## Soundness -/

theorem Sound.step {s : System} (h : s.Sound) (a : Action) : (s.step a).Sound where
  books := h.books.step a
  ordered := h.ordered.step a
  opened l hp := by
    have turn := (act h a).turn l
    generalize (s.step a).board.desk l = d at turn hp
    generalize about l (s.deeds a) = ds at turn
    cases turn with
    | idle => exact h.opened l hp
    | opened => rfl
    | go phase goes =>
      refine h.opened l fun hx => ?_
      cases goes <;> simp_all
    | fail phase => exact h.opened l (by rcases phase with h | ⟨n, h⟩ <;> simp [h])
    | leave => exact (hp rfl).elim
    | _ => exact h.opened l (by simp_all [Desk.withdraw])

theorem Sound.initial (attached : Bool) : (initial attached).Sound where
  books := .initial attached
  ordered := .initial attached
  opened l hp := by
    refine absurd ?_ hp
    cases attached <;> rfl

theorem sound_run (attached : Bool) (actions : List Action) : (run attached actions).Sound := by
  refine List.foldlRecOn (motive := Sound) actions System.step (Sound.initial attached) ?_
  exact fun s h a _ => h.step a

/-- What holds at first and is kept by every act holds of the history and the state of any run. -/
theorem history_induction {I : List Deed → System → Prop} {attached : Bool}
    (first : I [] (initial attached))
    (next : ∀ H s a, s.Sound → I H s → s.Act a (s.deeds a) (s.step a).board →
      I (H ++ s.deeds a) (s.step a)) (actions : List Action) :
    I (history attached actions) (run attached actions) := by
  induction actions using List.reverseRecOn with
  | nil => exact first
  | append_singleton actions a ih =>
    have sound := sound_run attached actions
    rw [history_append, run_append]
    have := next _ _ a sound ih (act sound a)
    simpa [historyFrom] using this

end System

end EmbeddedPython
