import EmbeddedPython.Proofs.Cancellation.Withdrawal
import EmbeddedPython.Proofs.Environment.Finalization
import EmbeddedPython.Proofs.Environment.History
import Mathlib.Logic.Function.Basic

/-
  The board

  What a driver does with its requests and tasks does not depend on the whole
  process. The board keeps what matters to it: for each loop the queue, the
  tasks and the phase, then the signals, the number of the next task, the stage
  of each promise and the requests that threads are still to push. The
  interpreter, the log, the environments and what belongs to the owners of a
  loop are left out, and most of what an activity does is quiet: the board
  stays the same.
-/

namespace EmbeddedPython

open Activity Bridge

namespace Bridge

/-- What a driver works on: its queue, its tasks and how far it is. -/
structure Desk where
  requests : List Request
  isOpen : Bool
  tasks : List Tracked
  stopping : Bool
  phase : Phase

namespace Desk

/-- The desk of a new driver. -/
def fresh : Desk := ⟨[], true, [], false, .entering⟩

/-- The desk of a driver that is not there. -/
def vacant : Desk := ⟨[], false, [], false, .exited⟩

end Desk

def EventLoop.desk (x : EventLoop) : Desk :=
  ⟨x.requests, x.notifier.isSome, x.driver.tasks, x.driver.stopping, x.driver.phase⟩

end Bridge

/-- The requests that are still to be pushed, with the loops that they are for. -/
def pushes (chores : Chores) : List (LoopId × Request) :=
  chores.filterMap fun
    | (_, .enqueue l r) => some (l, r)
    | _ => none

structure Board where
  desk : LoopId → Desk
  signals : Cancellation.Signals CancelCall
  nextTask : TaskId
  stage : PromiseId → Option Bridge.Stage
  pending : List (LoopId × Request)

namespace Board

/-- Changes a desk. -/
def change (b : Board) (l : LoopId) (f : Desk → Desk) : Board :=
  { b with desk := Function.update b.desk l (f (b.desk l)) }

/-- Tells a caller how far its request is. -/
def tell (b : Board) (i : PromiseId) (stage : Bridge.Stage) : Board :=
  { b with stage := Function.update b.stage i ((b.stage i).map fun _ => stage) }

/-- Tells the caller of a request what it came to, if there is one. -/
def answer (b : Board) (r : Request) (e : Error) : Board :=
  match r.promise? with
  | some i => b.tell i (.settled (.error e))
  | none => b

/-- Gives up a registration. -/
def giveUp (b : Board) (r : Cancellation.Registration) : Board :=
  { b with signals := Cancellation.without b.signals r }

@[simp] theorem change_desk_self (b : Board) (l : LoopId) (f : Desk → Desk) :
    (b.change l f).desk l = f (b.desk l) :=
  Function.update_self ..

@[simp] theorem change_desk_of_ne (b : Board) {l k : LoopId} (h : k ≠ l) (f : Desk → Desk) :
    (b.change l f).desk k = b.desk k :=
  Function.update_of_ne h ..

theorem change_change (b : Board) (l : LoopId) (f g : Desk → Desk) :
    (b.change l f).change l g = b.change l fun d => g (f d) := by
  simp [change]

@[simp] theorem change_signals (b : Board) (l : LoopId) (f : Desk → Desk) :
    (b.change l f).signals = b.signals := rfl

@[simp] theorem change_nextTask (b : Board) (l : LoopId) (f : Desk → Desk) :
    (b.change l f).nextTask = b.nextTask := rfl

@[simp] theorem change_stage (b : Board) (l : LoopId) (f : Desk → Desk) :
    (b.change l f).stage = b.stage := rfl

@[simp] theorem change_pending (b : Board) (l : LoopId) (f : Desk → Desk) :
    (b.change l f).pending = b.pending := rfl

@[simp] theorem tell_desk (b : Board) (i : PromiseId) (stage : Bridge.Stage) :
    (b.tell i stage).desk = b.desk := rfl

@[simp] theorem tell_signals (b : Board) (i : PromiseId) (stage : Bridge.Stage) :
    (b.tell i stage).signals = b.signals := rfl

@[simp] theorem tell_nextTask (b : Board) (i : PromiseId) (stage : Bridge.Stage) :
    (b.tell i stage).nextTask = b.nextTask := rfl

@[simp] theorem tell_pending (b : Board) (i : PromiseId) (stage : Bridge.Stage) :
    (b.tell i stage).pending = b.pending := rfl

@[simp] theorem answer_desk (b : Board) (r : Request) (e : Error) :
    (b.answer r e).desk = b.desk := by
  cases r <;> rfl

@[simp] theorem answer_signals (b : Board) (r : Request) (e : Error) :
    (b.answer r e).signals = b.signals := by
  cases r <;> rfl

@[simp] theorem answer_nextTask (b : Board) (r : Request) (e : Error) :
    (b.answer r e).nextTask = b.nextTask := by
  cases r <;> rfl

@[simp] theorem answer_pending (b : Board) (r : Request) (e : Error) :
    (b.answer r e).pending = b.pending := by
  cases r <;> rfl

end Board

namespace Process

/-- The board of a process whose threads are still to push some requests. -/
def board (p : Process) (pending : List (LoopId × Request)) : Board where
  desk l := (p.loop l).desk
  signals := p.signals
  nextTask := p.nextTask
  stage i := p.promises[i]?.map (·.stage)
  pending := pending

variable (p : Process) (w : List (LoopId × Request))

theorem changeLoop_board {l : LoopId} (hl : l < p.loops.size)
    {f : Bridge.EventLoop → Bridge.EventLoop} {g : Desk → Desk}
    (h : ∀ x, (f x).desk = g x.desk) : (p.changeLoop l f).board w = (p.board w).change l g := by
  have hd : (fun k => ((p.changeLoop l f).loop k).desk) =
      Function.update (fun k => (p.loop k).desk) l (g (p.loop l).desk) := by
    funext k
    by_cases hk : k = l
    · subst hk
      simp [loop_changeLoop_self hl, h]
    · simp [loop_changeLoop_of_ne hk, hk]
  simp only [board, Board.change, hd]
  rfl

/-- A change that belongs to the owners of a loop. -/
theorem changeLoop_board_of_same (l : LoopId) {f : Bridge.EventLoop → Bridge.EventLoop}
    (h : ∀ x, (f x).desk = x.desk) : (p.changeLoop l f).board w = p.board w := by
  have hd (k : LoopId) : ((p.changeLoop l f).loop k).desk = (p.loop k).desk := by
    rw [loop_changeLoop]
    split
    · next hk => rw [hk.1, h]
    · rfl
  simp only [board, hd]
  rfl

@[simp] theorem log_board (e : Event) (l : LoopId) (i : PromiseId) :
    (p.log e l i).board w = p.board w := rfl

@[simp] theorem record_board (e : Event) (l : LoopId) (r : Request) :
    (p.record e l r).board w = p.board w := by
  cases r <;> rfl

theorem changePromise_board (i : PromiseId) (f : Promise → Promise) :
    (p.changePromise i f).board w = { p.board w with
      stage := Function.update (p.board w).stage i (p.promises[i]?.map fun x => (f x).stage) } := by
  have hs : (fun j => (p.changePromise i f).promises[j]?.map (·.stage)) =
      Function.update (p.board w).stage i (p.promises[i]?.map fun x => (f x).stage) := by
    funext j
    by_cases hj : j = i
    · subst hj
      simp [changePromise, Array.getElem?_modify, Function.comp_def]
    · simp [changePromise, Array.getElem?_modify, Ne.symm hj, hj, board]
  simp only [board, hs]
  rfl

@[simp] theorem settle_board (i : PromiseId) (o : Bridge.Outcome) :
    (p.settle i o).board w = (p.board w).tell i (.settled o) := by
  rw [settle, changePromise_board, Board.tell]
  simp [board, Function.comp_def]

@[simp] theorem answer_board (r : Request) (e : Error) :
    (p.answer r e).board w = (p.board w).answer r e := by
  cases r with
  | schedule _ _ i => exact p.settle_board w i (.error e)
  | _ => rfl

theorem newPromise_board (awaited : Bool) :
    ({ p with promises := p.promises.push ⟨.submitted, awaited⟩ } : Process).board w =
      { p.board w with
        stage := Function.update (p.board w).stage p.promises.size (some .submitted) } := by
  have hs : (fun i => (p.promises.push ⟨.submitted, awaited⟩)[i]?.map (·.stage)) =
      Function.update (p.board w).stage p.promises.size (some .submitted) := by
    funext i
    by_cases hi : i = p.promises.size
    · simp [hi]
    · simp [hi, board, Array.getElem?_push]
  simp only [board, hs]
  rfl

/-! ## The changes in the books, on the board -/

section

variable {p} {l : LoopId}

theorem queue_board (hl : l < p.loops.size) (r : Request) : (p.queue l r).board w =
    (p.board w).change l fun d => { d with requests := d.requests ++ [r] } := by
  rw [queue, record_board]
  exact changeLoop_board p w hl fun _ => rfl

theorem drain_board {r : Request} {rest : List Request} (h : (p.loop l).requests = r :: rest) :
    (p.drain l).board w = (p.board w).change l fun d =>
      { d with requests := rest, phase := afterDraining r } := by
  have hl : l < p.loops.size := lt_size_of_requests (by simp [h])
  simp only [drain, h, record_board]
  exact changeLoop_board p w hl fun _ => rfl

theorem clear_board {r : Request} {rest : List Request} (h : (p.loop l).requests = r :: rest)
    (e : Error) : (p.clear l e).board w =
      ((p.board w).answer r e).change l fun d => { d with requests := rest } := by
  have hl : l < p.loops.size := lt_size_of_requests (by simp [h])
  simp only [clear, h, answer_board, record_board]
  rw [changeLoop_board p w hl (g := fun d => { d with requests := rest }) fun _ => rfl]
  cases r <;> rfl

theorem reject_board (hl : l < p.loops.size) (i : PromiseId) (e : Error) :
    (p.reject l i e).board w = ((p.board w).tell i (.settled (.error e))).change l fun d =>
      { d with phase := .draining } := by
  rw [reject, settle_board, log_board,
    changeLoop_board p w hl (g := fun d => { d with phase := .draining }) fun _ => rfl]
  rfl

theorem accept_board (hl : l < p.loops.size) (x : Tracked) :
    (p.accept l x).board w = ((p.board w).tell x.promise .accepted).change l fun d =>
      { d with tasks := d.tasks ++ [x], phase := .draining } := by
  rw [accept, changePromise_board, log_board, changeLoop_board p w hl
    (g := fun d => { d with tasks := d.tasks ++ [x], phase := .draining }) fun _ => rfl]
  simp [Board.tell, Board.change, board, Function.comp_def, log, changeLoop]

theorem finish_board {n : Nat} {x : Tracked} (h : (p.loop l).driver.tasks[n]? = some x)
    (o : Bridge.Outcome) : (p.finish l n o).board w =
      ((p.board w).tell x.promise (.settled o)).change l fun d =>
        { d with tasks := d.tasks.eraseIdx n } := by
  have hl : l < p.loops.size := lt_size_of_tasks fun hn => by simp [hn] at h
  simp only [finish, h, settle_board, log_board]
  rw [changeLoop_board p w hl (g := fun d => { d with tasks := d.tasks.eraseIdx n }) fun _ => rfl]
  rfl

theorem exit_board (hl : l < p.loops.size) : (p.exit l).board w =
    (p.board w).change l fun d => { d with phase := .exited } :=
  changeLoop_board p w hl fun _ => rfl

theorem addLoop_board (x : Bridge.EventLoop) : (p.addLoop x).board w =
    (p.board w).change p.loops.size fun _ => x.desk := by
  have hd : (fun k => ((p.addLoop x).loop k).desk) =
      Function.update (fun k => (p.loop k).desk) p.loops.size x.desk := by
    funext k
    by_cases hk : k = p.loops.size
    · simp [loop_addLoop, hk]
    · simp [loop_addLoop, hk]
  simp only [board, Board.change, hd]
  rfl

/-- A queue that is empty and closed already. -/
theorem shut_board (h : (p.loop l).notifier = none) :
    (p.changeLoop l fun x => { x with notifier := none }).board w = p.board w := by
  by_cases hl : l < p.loops.size
  · rw [changeLoop_board p w hl (g := fun d => { d with isOpen := false }) fun _ => rfl]
    have hd : (p.loop l).desk = { (p.loop l).desk with isOpen := false } := by
      simp [EventLoop.desk, h]
    have hu : Function.update (fun k => (p.loop k).desk) l (p.loop l).desk =
      fun k => (p.loop k).desk := Function.update_eq_self ..
    simp only [Board.change, board, ← hd, hu]
  · have hp : p.changeLoop l (fun x => { x with notifier := none }) = p := by
      have hm : p.loops.modify l (fun x => { x with notifier := none }) = p.loops := by
        apply Array.ext_getElem?
        intro k
        by_cases hk : l = k
        · subst hk
          simp [Nat.not_lt.mp hl]
        · simp [Array.getElem?_modify, hk]
      rw [changeLoop, hm]
    rw [hp]

end

end Process

/-! ## What is quiet -/

namespace Activity

variable {α β : Type}

theorem run_forM_cons (x : α) (xs : List α) (f : α → Activity Unit) (p : Process) :
    (x :: xs).forM f p = xs.forM f (f x p).2 := rfl

/-- Whether an activity changes nothing on the board. -/
def Quiet (x : Activity α) : Prop := ∀ p w, (x p).2.board w = p.board w

namespace Quiet

theorem pure (a : α) : Quiet (Pure.pure a) := fun _ _ => rfl

theorem bind {x : Activity α} {f : α → Activity β} (hx : Quiet x) (hf : ∀ a, Quiet (f a)) :
    Quiet (x >>= f) :=
  fun p w => (hf _ _ w).trans (hx p w)

theorem get_bind {f : Process → Activity β} (hf : ∀ p, Quiet (f p)) : Quiet (get >>= f) :=
  fun p => hf p p

theorem modify {f : Process → Process} (hf : ∀ p w, (f p).board w = p.board w) :
    Quiet (modify f) :=
  hf

theorem forM {xs : List α} {f : α → Activity Unit} (hf : ∀ a, Quiet (f a)) :
    Quiet (xs.forM f) := by
  induction xs with
  | nil => exact pure ()
  | cons x xs ih => exact bind (hf x) fun _ => ih

end Quiet

theorem ask_quiet (t : ThreadId) (op : Op α) : Quiet (ask t op) := by
  intro p w
  simp only [ask]
  split <;> rfl

theorem tell_quiet (t : ThreadId) (op : Op Unit) : Quiet (tell t op) :=
  .bind (ask_quiet t op) fun _ => .pure ()

theorem note_quiet (m : LogMessage) : Quiet (note m) := .modify fun _ _ => rfl

theorem modifyEnvironment_quiet (e : EnvironmentId) (f : Environment → Environment) :
    Quiet (modifyEnvironment e f) :=
  .modify fun _ _ => rfl

end Activity

namespace Bridge

theorem wake_quiet (t : ThreadId) (n : Notifier) : Quiet (wake t n) := tell_quiet t _

theorem keepOutcome_quiet (t : ThreadId) (i : PromiseId) (o : Outcome) :
    Quiet (keepOutcome t i o) := by
  refine .get_bind fun p => ?_
  split
  · exact ask_quiet t _
  · exact .pure _

theorem modifyPythonLoop_quiet (l : LoopId) (f : Loop → Loop) : Quiet (modifyPythonLoop l f) := by
  refine .modify fun p w => ?_
  simp only [Process.changePythonLoop]
  split <;> rfl

theorem modifyLoop_quiet (l : LoopId) {f : EventLoop → EventLoop}
    (h : ∀ x, (f x).desk = x.desk) : Quiet (modifyLoop l f) :=
  .modify fun p w => p.changeLoop_board_of_same w l h

theorem disown_quiet (l : LoopId) : Quiet (disown l) :=
  .bind (modifyLoop_quiet l fun _ => rfl) fun _ => .get_bind fun _ => .pure _

theorem markDisposed_quiet (l : LoopId) : Quiet (markDisposed l) := by
  refine .get_bind fun p => ?_
  split
  · exact .pure false
  · exact .bind (modifyLoop_quiet l fun _ => rfl) fun _ => .pure _

theorem noteDisposal_quiet (result : Except Error Unit) : Quiet (noteDisposal result) := by
  cases result with
  | ok _ => exact .pure ()
  | error _ => exact note_quiet _

theorem releaseLoop_quiet (t : ThreadId) (l : LoopId) : Quiet (releaseLoop t l) :=
  .get_bind fun _ => tell_quiet t _

theorem abandon_quiet (t : ThreadId) (i : PromiseId) : Quiet (abandon t i) := by
  refine .bind (.modify fun p w => ?_) fun _ => .get_bind fun p => ?_
  · rw [Process.changePromise_board]
    have hs : Function.update (p.board w).stage i (p.promises[i]?.map (·.stage)) =
      (p.board w).stage := Function.update_eq_self ..
    exact congrArg (fun stage => { p.board w with stage := stage }) hs
  · split
    · exact tell_quiet t _
    · exact .pure ()

theorem giveUp_board (r : Cancellation.Registration) (p : Process)
    (w : List (LoopId × Request)) : (giveUp r p).2.board w = (p.board w).giveUp r := by
  simp only [Bridge.giveUp, run_modify, Board.giveUp, Cancellation.without, Process.board]
  cases Cancellation.withdraw r p.signals <;> rfl

/-- The loop of an exited driver has nothing in its queue, which is closed. -/
theorem endDispose_board (t : ThreadId) (l : LoopId) {p : Process} (h : p.LedgerAt l)
    (w : List (LoopId × Request)) : (endDispose t l p).2.board w = p.board w := by
  by_cases hx : (p.loop l).driver.phase = .exited
  · obtain ⟨-, requests, notifier⟩ := h.exited hx
    simp only [endDispose, run_get_bind, if_pos hx]
    refine (ask_quiet t _ _ w).trans ?_
    show (Bridge.close t l .eventLoopClosed p).2.board w = _
    simp only [Bridge.close, run_get_bind, notifier, requests]
    exact p.shut_board w notifier
  · simp only [endDispose, run_get_bind, if_neg hx]
    rfl

end Bridge

namespace Activity

theorem beginStart_quiet (o : Options) : Quiet (beginStart o) := by
  intro p w
  rw [beginStart_eq]
  split
  · rfl
  · cases h : p.host.lock.alive <;> simp only [Process.enroll, h] <;> rfl

theorem resolve_quiet (t : ThreadId) (e : EnvironmentId) : Quiet (resolve t e) := by
  refine .get_bind fun p => .bind (ask_quiet t _) fun r => ?_
  cases r with
  | ok b => exact .bind (modifyEnvironment_quiet e _) fun _ => .pure _
  | error _ => exact .pure _

theorem dropBindings_quiet (t : ThreadId) (e : EnvironmentId) : Quiet (dropBindings t e) := by
  refine .get_bind fun p => ?_
  split
  · exact .pure ()
  · exact .bind (modifyEnvironment_quiet e _) fun _ => tell_quiet t _

theorem releaseDefault_quiet (t : ThreadId) (loop : Option LoopId) :
    Quiet (releaseDefault t loop) := by
  rcases loop with _ | l
  · exact .pure ()
  · refine .bind (disown_quiet l) fun last => ?_
    cases last with
    | true => exact releaseLoop_quiet t l
    | false => exact .pure ()

theorem decideClose_quiet (x : Environment) (disposed : Except Error Unit) :
    Quiet (decideClose x disposed) := by
  simp only [decideClose]
  split
  · exact .pure _
  · split
    · exact .pure _
    · cases disposed <;> exact .bind (note_quiet _) fun _ => .pure _

theorem settleClose_board (t : ThreadId) (e : EnvironmentId) (loop : Option LoopId)
    (waited : Bool) {p : Process} (h : p.Ledger) (w : List (LoopId × Request)) :
    (settleClose t e loop waited p).2.board w = p.board w := by
  have disposed : (endDefault t loop waited p).2.board w = p.board w := by
    rcases loop with _ | l
    · rfl
    · cases waited with
      | true => exact endDispose_board t l (h l) w
      | false => rfl
  have rest (disposed : Except Error Unit) : Quiet (do
      releaseDefault t loop
      dropBindings t e
      let x := (← get).environment e
      modifyEnvironment e fun x => { x with owns := false }
      decideClose x disposed) := by
    refine .bind (releaseDefault_quiet t loop) fun _ => ?_
    refine .bind (dropBindings_quiet t e) fun _ => .get_bind fun p => ?_
    exact .bind (modifyEnvironment_quiet e _) fun _ => decideClose_quiet _ _
  rw [settleClose, run_bind]
  exact (rest _ _ w).trans disposed

theorem finishClose_quiet (t : ThreadId) (finalizes : Bool) : Quiet (finishClose t finalizes) := by
  have vacate : Quiet (modify fun p => { p with active := false }) := fun _ _ => rfl
  cases finalizes with
  | true =>
    refine .bind (fun p w => ?_) fun _ => vacate
    obtain ⟨k, hk, -⟩ := p.finalize_eq t
    rw [run_modify, hk]
    rfl
  | false => exact vacate

end Activity

end EmbeddedPython
