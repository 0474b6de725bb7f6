import EmbeddedPython.Environment.System
import EmbeddedPython.Proofs.Environment.Finalization

/-
  Processes that differ in one promise

  How a promise stands is looked at by its caller, and the journal by nobody.
  Processes that differ in nothing else go on in the same way: whatever is done
  to both of them has the same answers and leaves them as alike as they were.
-/

namespace EmbeddedPython

open Activity Bridge

/-- Whether promises stand alike but for one. Somebody waits for the same ones, and the one has been
told of an object in both cases or in none. -/
structure Bridge.Alike (i : PromiseId) (ps qs : Array Promise) : Prop where
  size : qs.size = ps.size
  awaited : ∀ j, (qs.getD j default).awaited = (ps.getD j default).awaited
  others : ∀ j ≠ i, (qs.getD j default).stage = (ps.getD j default).stage
  objects : ∀ x, (qs.getD i default).stage = .settled (.ok x) ↔
    (ps.getD i default).stage = .settled (.ok x)

namespace Process

/-- Whether a process differs from another in how a promise stands and in the journal only. -/
inductive SameBut (i : PromiseId) (p : Process) : Process → Prop
  | intro {qs : Array Promise} (journal : List Bridge.Entry) (alike : Alike i p.promises qs) :
      SameBut i p { p with promises := qs, journal := journal }

end Process

namespace Bridge.Alike

variable {i j : PromiseId} {ps qs : Array Promise}

theorem refl (i : PromiseId) (ps : Array Promise) : Alike i ps ps :=
  ⟨rfl, fun _ => rfl, fun _ _ => rfl, fun _ => .rfl⟩

theorem symm (h : Alike i ps qs) : Alike i qs ps :=
  ⟨h.size.symm, fun j => (h.awaited j).symm, fun j hj => (h.others j hj).symm,
    fun x => (h.objects x).symm⟩

theorem trans {rs : Array Promise} (h : Alike i ps qs) (h' : Alike i qs rs) : Alike i ps rs :=
  ⟨h'.size.trans h.size, fun j => (h'.awaited j).trans (h.awaited j),
    fun j hj => (h'.others j hj).trans (h.others j hj), fun x => (h'.objects x).trans (h.objects x)⟩

/-- All others have been told the same. -/
theorem stage (h : Alike i ps qs) (hj : j ≠ i) :
    qs[j]?.map (·.stage) = ps[j]?.map (·.stage) := by
  by_cases made : j < ps.size
  · have same := h.others j hj
    simp only [Array.getD, made, h.size ▸ made, dif_pos] at same
    rw [Array.getElem?_eq_getElem made, Array.getElem?_eq_getElem (h.size ▸ made)]
    exact congrArg some same
  · rw [Array.getElem?_eq_none (Nat.not_lt.mp made),
      Array.getElem?_eq_none (h.size ▸ Nat.not_lt.mp made)]

theorem promise (h : Alike i ps qs) (hj : j ≠ i) :
    (qs.getD j default : Promise) = ps.getD j default := by
  have stage := h.others j hj
  have awaited := h.awaited j
  generalize (qs.getD j default : Promise) = x at stage awaited ⊢
  generalize (ps.getD j default : Promise) = y at stage awaited ⊢
  cases x
  cases y
  cases stage
  cases awaited
  rfl

/-- There is the one promise in both cases or in none. -/
theorem made (h : Alike i ps qs) (stage : Bridge.Stage) :
    (qs[i]?.map (·.stage)).map (fun _ => stage) = (ps[i]?.map (·.stage)).map fun _ => stage := by
  by_cases made : i < ps.size
  · rw [Array.getElem?_eq_getElem made, Array.getElem?_eq_getElem (h.size ▸ made)]
    rfl
  · rw [Array.getElem?_eq_none (Nat.not_lt.mp made),
      Array.getElem?_eq_none (h.size ▸ Nat.not_lt.mp made)]

/-- A promise is changed in the same way. -/
theorem modify (h : Alike i ps qs) (j : PromiseId) {f : Promise → Promise}
    (awaited : ∀ x y, x.awaited = y.awaited → (f x).awaited = (f y).awaited)
    (stage : ∀ x y, x.stage = y.stage → (f x).stage = (f y).stage)
    (objects : ∀ x y v, (x.stage = .settled (.ok v) ↔ y.stage = .settled (.ok v)) →
      ((f x).stage = .settled (.ok v) ↔ (f y).stage = .settled (.ok v))) :
    Alike i (ps.modify j f) (qs.modify j f) := by
  refine ⟨by simp only [Array.size_modify, h.size], fun k => ?_, fun k hk => ?_, fun x => ?_⟩
  · rw [Process.getD_modify, Process.getD_modify, h.size]
    split
    · exact awaited _ _ (h.awaited j)
    · exact h.awaited k
  · rw [Process.getD_modify, Process.getD_modify, h.size]
    split
    · next hj => exact stage _ _ (h.others j (hj.1 ▸ hk))
    · exact h.others k hk
  · rw [Process.getD_modify, Process.getD_modify, h.size]
    split
    · next hj => exact objects _ _ x (hj.1 ▸ h.objects x)
    · exact h.objects x

/-- A promise is made. -/
theorem push (h : Alike i ps qs) (x : Promise) : Alike i (ps.push x) (qs.push x) := by
  refine ⟨by simp only [Array.size_push, h.size], fun k => ?_, fun k hk => ?_, fun v => ?_⟩
  · rw [Process.getD_push, Process.getD_push, h.size]
    split
    · rfl
    · exact h.awaited k
  · rw [Process.getD_push, Process.getD_push, h.size]
    split
    · rfl
    · exact h.others k hk
  · rw [Process.getD_push, Process.getD_push, h.size]
    split
    · exact .rfl
    · exact h.objects v

end Bridge.Alike

/-! ## Changes to processes that are alike -/

namespace Process

variable {i : PromiseId} {p q : Process}

namespace SameBut

theorem refl (i : PromiseId) (p : Process) : SameBut i p p := .intro p.journal (.refl i p.promises)

theorem symm (h : SameBut i p q) : SameBut i q p := by
  obtain ⟨journal, alike⟩ := h
  exact .intro (p := { p with promises := _, journal := journal }) p.journal alike.symm

theorem trans {r : Process} (h : SameBut i p q) (h' : SameBut i q r) : SameBut i p r := by
  obtain ⟨journal, alike⟩ := h
  obtain ⟨journal', alike'⟩ := h'
  exact .intro journal' (alike.trans alike')

end SameBut

/-- Whether a change keeps processes alike. -/
def Keeps (i : PromiseId) (f : Process → Process) : Prop := ∀ p q, SameBut i p q → SameBut i (f p) (f q)

namespace Keeps

variable {f g : Process → Process}

theorem id (i : PromiseId) : Keeps i fun p => p := fun _ _ h => h

theorem comp (hf : Keeps i f) (hg : Keeps i g) : Keeps i fun p => g (f p) :=
  fun _ _ h => hg _ _ (hf _ _ h)

/-- A change that has nothing to do with promises. -/
theorem of_apart (promises : ∀ p, (f p).promises = p.promises)
    (apart : ∀ p qs journal, ∃ journal', f { p with promises := qs, journal := journal } =
      { f p with promises := qs, journal := journal' }) : Keeps i f := by
  rintro p _ ⟨journal, alike⟩
  obtain ⟨journal', same⟩ := apart p _ journal
  rw [same]
  exact .intro journal' (promises p ▸ alike)

theorem changeLoop (l : LoopId) (f : Bridge.EventLoop → Bridge.EventLoop) :
    Keeps i fun p => p.changeLoop l f :=
  of_apart (fun _ => rfl) fun _ _ journal => ⟨journal, rfl⟩

theorem changeEnvironment (e : EnvironmentId) (f : Environment → Environment) :
    Keeps i fun p => p.changeEnvironment e f :=
  of_apart (fun _ => rfl) fun _ _ journal => ⟨journal, rfl⟩

theorem log (event : Bridge.Event) (l : LoopId) (j : PromiseId) : Keeps i fun p => p.log event l j :=
  of_apart (fun _ => rfl) fun _ _ journal => ⟨⟨event, l, j⟩ :: journal, rfl⟩

theorem record (event : Bridge.Event) (l : LoopId) (r : Request) :
    Keeps i fun p => p.record event l r := by
  cases r with
  | schedule _ _ j => exact .log event l j
  | _ => exact .id i

theorem changePromise (j : PromiseId) {f : Promise → Promise}
    (awaited : ∀ x y, x.awaited = y.awaited → (f x).awaited = (f y).awaited)
    (stage : ∀ x y, x.stage = y.stage → (f x).stage = (f y).stage)
    (objects : ∀ x y v, (x.stage = .settled (.ok v) ↔ y.stage = .settled (.ok v)) →
      ((f x).stage = .settled (.ok v) ↔ (f y).stage = .settled (.ok v))) :
    Keeps i fun p => p.changePromise j f := by
  rintro p _ ⟨journal, alike⟩
  exact .intro (p := p.changePromise j f) journal (alike.modify j awaited stage objects)

/-- Somebody is told how its request stands. -/
theorem told (j : PromiseId) (stage : Bridge.Stage) :
    Keeps i fun p => p.changePromise j fun x => { x with stage := stage } :=
  .changePromise j (fun _ _ h => h) (fun _ _ _ => rfl) fun _ _ _ _ => .rfl

theorem settle (j : PromiseId) (o : Bridge.Outcome) : Keeps i fun p => p.settle j o :=
  .told j (.settled o)

theorem answer (r : Request) (e : Error) : Keeps i fun p => p.answer r e := by
  cases r with
  | schedule _ _ j => exact .settle j (.error e)
  | _ => exact .id i

theorem queue (l : LoopId) (r : Request) : Keeps i fun p => p.queue l r :=
  .comp (.changeLoop l _) (.record .queued l r)

theorem drain (l : LoopId) : Keeps i fun p => p.drain l := by
  rintro p q h
  have same : q.loop l = p.loop l := by
    obtain ⟨journal, alike⟩ := h
    rfl
  simp only [Process.drain, same]
  split
  · exact h
  · next r rest _ => exact Keeps.comp (.changeLoop l _) (.record .drained l r) p q h

theorem clear (l : LoopId) (e : Error) : Keeps i fun p => p.clear l e := by
  rintro p q h
  have same : q.loop l = p.loop l := by
    obtain ⟨journal, alike⟩ := h
    rfl
  simp only [Process.clear, same]
  split
  · exact h
  · next r rest _ =>
    exact Keeps.comp (.comp (.comp (.changeLoop l _) (.record .cleared l r)) (.record .rejected l r))
      (.answer r e) p q h

theorem reject (l : LoopId) (j : PromiseId) (e : Error) : Keeps i fun p => p.reject l j e :=
  .comp (.comp (.changeLoop l _) (.log .rejected l j)) (.settle j (.error e))

theorem accept (l : LoopId) (x : Tracked) : Keeps i fun p => p.accept l x :=
  .comp (.comp (.changeLoop l _) (.log .accepted l x.promise)) (.told x.promise .accepted)

theorem finish (l : LoopId) (n : Nat) (o : Bridge.Outcome) : Keeps i fun p => p.finish l n o := by
  rintro p q h
  have same : q.loop l = p.loop l := by
    obtain ⟨journal, alike⟩ := h
    rfl
  simp only [Process.finish, same]
  split
  · exact h
  · next x _ =>
    exact Keeps.comp (.comp (.changeLoop l _) (.log .finished l x.promise)) (.settle x.promise o) p q h

theorem addLoop (x : Bridge.EventLoop) : Keeps i fun p => p.addLoop x :=
  of_apart (fun _ => rfl) fun _ _ journal => ⟨journal, rfl⟩

theorem exit (l : LoopId) : Keeps i fun p => p.exit l :=
  of_apart (fun _ => rfl) fun _ _ journal => ⟨journal, rfl⟩

theorem host {f : Host → Host} : Keeps i fun p => { p with host := f p.host } :=
  of_apart (fun _ => rfl) fun _ _ journal => ⟨journal, rfl⟩

theorem enroll (o : Options) : Keeps i fun p => p.enroll o := by
  refine of_apart (fun p => ?_) fun p qs journal => ⟨journal, ?_⟩ <;>
    cases h : p.host.lock.alive <;> simp [Process.enroll, Process.beginInterpreter, h]

theorem finalize (t : ThreadId) : Keeps i fun p => p.finalize t := by
  refine of_apart (fun p => ?_) fun p qs journal => ⟨journal, ?_⟩
  · obtain ⟨h, ends, -⟩ := p.finalize_eq t
    rw [ends]
  · simp only [Process.finalize]
    cases (p.host.lock.suspend t).1 <;> rfl

theorem changePythonLoop (l : LoopId) (f : Loop → Loop) : Keeps i fun p => p.changePythonLoop l f := by
  rintro p q h
  have same : q.pythonLoop? l = p.pythonLoop? l ∧ q.loop l = p.loop l := by
    obtain ⟨journal, alike⟩ := h
    exact ⟨rfl, rfl⟩
  simp only [Process.changePythonLoop, same.1, same.2]
  split
  · next x _ => exact Keeps.host (f := fun k => { k with memory := k.memory.setValue _ (.loop (f x)) }) p q h
  · exact h

end Keeps

end Process

/-! ## Activities in processes that are alike -/

namespace Activity

variable {α β : Type} {i : PromiseId}

/-- Whether an activity has the same answers in processes that are alike and leaves them so. -/
def Likens (i : PromiseId) (x : Activity α) : Prop :=
  ∀ p q : Process, p.SameBut i q → (x q).1 = (x p).1 ∧ (x p).2.SameBut i (x q).2

namespace Likens

theorem pure (a : α) : Likens i (Pure.pure a) := fun _ _ h => ⟨rfl, h⟩

theorem bind {x : Activity α} {f : α → Activity β} (hx : Likens i x) (hf : ∀ a, Likens i (f a)) :
    Likens i (x >>= f) := by
  intro p q h
  obtain ⟨same, next⟩ := hx p q h
  rw [run_bind, run_bind, same]
  exact hf _ _ _ next

/-- What an activity reads must not be how a promise stands. -/
theorem get_bind {f : Process → Activity β}
    (same : ∀ p qs journal, f { p with promises := qs, journal := journal } = f p)
    (hf : ∀ p, Likens i (f p)) : Likens i (get >>= f) := by
  rintro p _ ⟨journal, alike⟩
  have next := hf p p _ (.intro journal alike)
  rw [run_get_bind, run_get_bind, same]
  exact next

theorem modify {f : Process → Process} (hf : Process.Keeps i f) : Likens i (modify f) :=
  fun p q h => ⟨rfl, hf p q h⟩

theorem forM {xs : List α} {f : α → Activity Unit} (hf : ∀ a, Likens i (f a)) :
    Likens i (xs.forM f) := by
  induction xs with
  | nil => exact pure ()
  | cons x xs ih => exact bind (hf x) fun _ => ih

end Likens

theorem ask_likens (t : ThreadId) (op : Op α) : Likens i (ask t op) := by
  rintro p _ ⟨journal, alike⟩
  simp only [ask]
  rcases op.perform t p.host with ⟨(e | _ | _) | a, k⟩ <;>
    exact ⟨rfl, .intro (p := { p with host := k }) journal alike⟩

theorem tell_likens (t : ThreadId) (op : Op Unit) : Likens i (tell t op) :=
  .bind (ask_likens t op) fun _ => .pure ()

theorem note_likens (m : LogMessage) : Likens i (note m) :=
  .modify (.host (f := fun k => { k with log := k.log ++ [m] }))

theorem modifyLoop_likens (l : LoopId) (f : Bridge.EventLoop → Bridge.EventLoop) :
    Likens i (modifyLoop l f) :=
  .modify (.changeLoop l f)

theorem modifyEnvironment_likens (e : EnvironmentId) (f : Environment → Environment) :
    Likens i (modifyEnvironment e f) :=
  .modify (.changeEnvironment e f)

end Activity

namespace Bridge

variable {i : PromiseId}

theorem newPromise_likens : Likens i newPromise := by
  rintro p _ ⟨journal, alike⟩
  exact ⟨alike.size, .intro (p := { p with promises := p.promises.push ⟨.submitted, true⟩ }) journal
    (alike.push _)⟩

theorem keepOutcome_likens (t : ThreadId) (j : PromiseId) (o : Outcome) :
    Likens i (keepOutcome t j o) := by
  intro p q h
  have same : (q.promise j).awaited = (p.promise j).awaited := by
    obtain ⟨journal, alike⟩ := h
    exact alike.awaited j
  simp only [keepOutcome, run_get_bind, same]
  cases o with
  | error e => exact Likens.pure _ p q h
  | ok x =>
    cases (p.promise j).awaited with
    | true => exact Likens.pure _ p q h
    | false => exact ask_likens t _ p q h

theorem abandon_likens (t : ThreadId) (j : PromiseId) : Likens i (abandon t j) := by
  refine .bind (.modify (.changePromise j (fun _ _ _ => rfl) (fun _ _ h => h) fun _ _ _ h => h))
    fun _ => ?_
  intro p q h
  have objects (x : Handle) : (q.promise j).stage = .settled (.ok x) ↔
      (p.promise j).stage = .settled (.ok x) := by
    obtain ⟨journal, alike⟩ := h
    by_cases hj : j = i
    · exact hj ▸ alike.objects x
    · exact (alike.others j hj).congr_left
  rw [run_get_bind, run_get_bind]
  rcases hp : (p.promise j).stage with _ | _ | (e | x)
  case settled.ok =>
    rw [(objects x).mpr hp]
    exact tell_likens t x.drop p q h
  all_goals
    rcases hq : (q.promise j).stage with _ | _ | (e' | y)
    case settled.ok => cases hp.symm.trans ((objects y).mp hq)
    all_goals exact Likens.pure () p q h

theorem push_likens (t : ThreadId) (l : LoopId) (r : Request) : Likens i (push t l r) := by
  refine .get_bind (fun _ _ _ => rfl) fun p => ?_
  split
  · refine .bind (ask_likens t _) fun bound => .bind (.modify (.queue l r)) fun _ => ?_
    cases bound with
    | ok _ => exact .pure _
    | error _ => exact .bind (note_likens _) fun _ => .pure _
  · exact .pure _

theorem wake_likens (t : ThreadId) (n : Notifier) : Likens i (wake t n) := tell_likens t _

theorem enqueue_likens (t : ThreadId) (l : LoopId) (r : Request) : Likens i (enqueue t l r) := by
  refine .bind (push_likens t l r) fun pushed => ?_
  rcases pushed with _ | _ | n
  · exact .pure _
  · exact .pure _
  · exact .bind (wake_likens t n) fun _ => .pure _

theorem discard_likens (t : ThreadId) (r : Request) (e : Error) : Likens i (discard t r e) :=
  .bind (.modify (.answer r e)) fun _ => tell_likens t _

theorem clearNext_likens (t : ThreadId) (l : LoopId) (e : Error) : Likens i (clearNext t l e) := by
  refine .get_bind (fun _ _ _ => rfl) fun p => ?_
  split
  · exact .pure _
  · exact .bind (.modify (.clear l e)) fun _ => tell_likens t _

theorem close_likens (t : ThreadId) (l : LoopId) (e : Error) : Likens i (close t l e) := by
  have cleared (p : Process) : Likens i ((p.loop l).requests.forM fun _ => clearNext t l e) :=
    .forM fun _ => clearNext_likens t l e
  refine .get_bind (fun _ _ _ => rfl) fun p => .bind (modifyLoop_likens l _) fun _ => ?_
  dsimp only
  split
  · exact .bind (tell_likens t _) fun _ => .bind (tell_likens t _) fun _ => cleared p
  · exact cleared p

theorem giveUp_likens (r : Cancellation.Registration) : Likens i (giveUp r) := by
  refine .modify ?_
  rintro p _ ⟨journal, alike⟩
  dsimp only
  split
  · next signals _ => exact .intro (p := { p with signals := signals }) journal alike
  · exact .intro journal alike

theorem requestCancel_likens (t : ThreadId) (c : CancelCall) : Likens i (requestCancel t c) :=
  .bind (enqueue_likens t c.loop _) fun _ => .pure _

theorem registerCancel_likens (t : ThreadId) (token : Cancellation.Token) (c : CancelCall) :
    Likens i (registerCancel t token c) := by
  simp only [registerCancel]
  cases token.signal with
  | none => exact .pure _
  | some n =>
    rintro p _ ⟨journal, alike⟩
    simp only [run_get_bind, run_set_bind]
    obtain ⟨id?, signal⟩ := (p.signals.getD n Cancellation.Signal.fresh).register c []
    have next := Process.SameBut.intro (i := i)
      (p := { p with signals := p.signals.setIfInBounds n signal }) journal alike
    cases id? with
    | some id => exact ⟨rfl, next⟩
    | none => exact Likens.bind (requestCancel_likens t c) (fun _ => .pure _) _ _ next

theorem newSource_likens : Likens i newSource := by
  rintro p _ ⟨journal, alike⟩
  exact ⟨rfl, .intro (p := { p with signals := p.signals.push Cancellation.Signal.fresh }) journal alike⟩

theorem raiseSignal_likens (n : Nat) : Likens i (raiseSignal n) := by
  rintro p _ ⟨journal, alike⟩
  exact ⟨rfl, .intro (p := { p with signals := _ }) journal alike⟩

/-! The driver -/

theorem setPhase_likens (l : LoopId) (phase : Phase) : Likens i (setPhase l phase) :=
  modifyLoop_likens l _

theorem modifyDriver_likens (l : LoopId) (f : Driver → Driver) : Likens i (modifyDriver l f) :=
  modifyLoop_likens l _

theorem modifyPythonLoop_likens (l : LoopId) (f : Loop → Loop) : Likens i (modifyPythonLoop l f) :=
  .modify (.changePythonLoop l f)

theorem cancelTask_likens (t : ThreadId) (x : Tracked) : Likens i (cancelTask t x) := by
  refine .bind (giveUp_likens _) fun _ => .bind (ask_likens t _) fun r => ?_
  cases r with
  | ok _ => exact .pure _
  | error _ => exact note_likens _

theorem failAll_likens (l : LoopId) (e : Error) : Likens i (failAll l e) := by
  refine .bind (note_likens _) fun _ => .get_bind (fun _ _ _ => rfl) fun p => ?_
  refine .bind (.forM fun x => .bind (giveUp_likens _) fun _ => .modify (.finish l 0 _)) fun _ => ?_
  exact .bind (setPhase_likens l _) fun _ => .forM fun x => tell_likens _ _

theorem enterLoop_likens (l : LoopId) : Likens i (enterLoop l) := by
  refine .get_bind (fun _ _ _ => rfl) fun p => ?_
  split
  · exact failAll_likens l _
  · exact .bind (modifyPythonLoop_likens l _) fun _ => setPhase_likens l _

theorem beginIteration_likens (l : LoopId) : Likens i (beginIteration l) := by
  refine .get_bind (fun _ _ _ => rfl) fun p => ?_
  split
  · split
    · exact .bind (setPhase_likens l _) fun _ => .pure _
    · exact .pure _
  · exact .pure _

theorem endIteration_likens (l : LoopId) : Likens i (endIteration l) := by
  refine .get_bind (fun _ _ _ => rfl) fun p => ?_
  split
  · exact .bind (modifyPythonLoop_likens l _) fun _ => setPhase_likens l _
  · exact setPhase_likens l _

theorem runNext_likens (l : LoopId) (left : Nat) : Likens i (runNext l left) := by
  refine .get_bind (fun _ _ _ => rfl) fun p => ?_
  split
  · refine .get_bind (fun _ _ _ => rfl) fun p => .bind (modifyPythonLoop_likens l _) fun _ => ?_
    refine .bind (ask_likens _ _) fun r => ?_
    cases r with
    | ok _ => exact setPhase_likens l _
    | error e => exact .bind (modifyPythonLoop_likens l _) fun _ => failAll_likens l e
  · exact setPhase_likens l _

theorem stopAll_likens (l : LoopId) : Likens i (stopAll l) := by
  refine .get_bind (fun _ _ _ => rfl) fun p => ?_
  dsimp only
  split
  · refine .bind (modifyDriver_likens l _) fun _ => .bind ?_ fun _ => modifyDriver_likens l _
    exact .forM fun x => cancelTask_likens _ x
  · exact .pure _

theorem cancelOne_likens (l : LoopId) (id : TaskId) : Likens i (cancelOne l id) := by
  refine .get_bind (fun _ _ _ => rfl) fun p => ?_
  split
  · exact .pure _
  · next x _ => exact .bind (cancelTask_likens _ x) fun _ => modifyDriver_likens l _

theorem drainOne_likens (l : LoopId) : Likens i (drainOne l) := by
  refine .get_bind (fun _ _ _ => rfl) fun p => ?_
  split
  · exact setPhase_likens l _
  · next r _ _ =>
    refine .bind (.modify (.drain l)) fun _ => ?_
    cases r with
    | schedule _ _ _ => exact .pure _
    | cancel id => exact cancelOne_likens l id
    | stop => exact stopAll_likens l

theorem refuse_likens (l : LoopId) (c : Handle) (j : PromiseId) (e : Error) :
    Likens i (refuse l c j e) :=
  .bind (.modify (.reject l j e)) fun _ => tell_likens _ _

theorem startNext_likens (l : LoopId) (c : Handle) (token : Cancellation.Token) (j : PromiseId) :
    Likens i (startNext l c token j) := by
  rintro p _ @⟨qs, journal, alike⟩
  rw [startNext, run_get_bind, run_get_bind]
  dsimp only
  rw [show ({ p with promises := qs, journal := journal } : Process).loop l = p.loop l from rfl]
  split
  · exact refuse_likens l c j _ p _ (.intro journal alike)
  · rw [run_set_bind, run_set_bind]
    refine Likens.bind (ask_likens _ _) (fun r => ?_) _ _
      (.intro (p := { p with nextTask := p.nextTask + 1 }) journal alike)
    cases r with
    | ok _ => exact setPhase_likens l _
    | error e => exact refuse_likens l c j e

theorem registerNext_likens (l : LoopId) (c : Handle) (token : Cancellation.Token) (x : Tracked) :
    Likens i (registerNext l c token x) :=
  .bind (registerCancel_likens _ token _) fun _ => setPhase_likens l _

theorem acceptNext_likens (l : LoopId) (c : Handle) (x : Tracked) : Likens i (acceptNext l c x) := by
  intro p q h
  have same : (q.promise x.promise).awaited = (p.promise x.promise).awaited := by
    obtain ⟨journal, alike⟩ := h
    exact alike.awaited x.promise
  have accepts (awaited : Bool) : Likens i (do
      modify fun p : Process => p.accept l x
      if !awaited then cancelOne l x.id
      tell (Process.driverThread l) c.drop) := by
    refine .bind (.modify (.accept l x)) fun _ => ?_
    cases awaited with
    | true => exact tell_likens _ _
    | false => exact .bind (cancelOne_likens l x.id) fun _ => tell_likens _ _
  rw [acceptNext, run_get_bind, run_get_bind, same]
  exact accepts _ p q h

theorem settleTask_likens (l : LoopId) (n : Nat) (x : Tracked) (o : Outcome) :
    Likens i (settleTask l n x o) :=
  .bind (giveUp_likens _) fun _ => .bind (keepOutcome_likens _ _ o) fun _ =>
    .bind (.modify (.finish l n _)) fun _ => tell_likens _ _

theorem concludeNext_likens (l : LoopId) (n : Nat) : Likens i (concludeNext l n) := by
  refine .get_bind (fun _ _ _ => rfl) fun p => ?_
  dsimp only
  split
  · exact setPhase_likens l _
  · next x _ =>
    refine .bind (ask_likens _ _) fun r => ?_
    rcases r with e | (_ | o)
    · exact settleTask_likens l n x (.error e)
    · exact setPhase_likens l _
    · exact settleTask_likens l n x o

theorem leave_likens (l : LoopId) : Likens i (leave l) := by
  refine .bind (close_likens _ l _) fun _ => .get_bind (fun _ _ _ => rfl) fun p => ?_
  exact .bind (tell_likens _ _) fun _ => .modify (.exit l)

theorem step_likens (l : LoopId) : Likens i (step l) := by
  refine .get_bind (fun _ _ _ => rfl) fun p => ?_
  split
  · exact .bind (enterLoop_likens l) fun _ => .pure _
  · exact beginIteration_likens l
  · exact .bind (endIteration_likens l) fun _ => .pure _
  · exact .bind (runNext_likens l _) fun _ => .pure _
  · exact .bind (drainOne_likens l) fun _ => .pure _
  · exact .bind (startNext_likens l _ _ _) fun _ => .pure _
  · exact .bind (registerNext_likens l _ _ _) fun _ => .pure _
  · exact .bind (acceptNext_likens l _ _) fun _ => .pure _
  · exact .bind (concludeNext_likens l _) fun _ => .pure _
  · exact .bind (leave_likens l) fun _ => .pure _
  · exact .pure _

/-! Event loops -/

theorem openLoop_likens (t : ThreadId) (e : EnvironmentId) : Likens i (openLoop t e) := by
  refine .get_bind (fun _ _ _ => rfl) fun p => ?_
  dsimp only
  split
  · exact .pure _
  · refine .bind (ask_likens t _) fun r => ?_
    cases r with
    | error _ => exact .pure _
    | ok made =>
      refine .get_bind (fun _ _ _ => rfl) fun p => .bind (.modify (.addLoop _)) fun _ => ?_
      exact .bind (tell_likens _ _) fun _ => .pure _

theorem defaultLoop_likens (t : ThreadId) (e : EnvironmentId) : Likens i (defaultLoop t e) := by
  refine .get_bind (fun _ _ _ => rfl) fun p => ?_
  split
  · exact .pure _
  · refine .bind (openLoop_likens t e) fun r => ?_
    cases r with
    | error _ => exact .pure _
    | ok l => exact .bind (modifyEnvironment_likens e _) fun _ => .pure _

theorem prepare_likens (t : ThreadId) (l : LoopId) (awaitable : Handle) (token : Cancellation.Token) :
    Likens i (prepare t l awaitable token) := by
  refine .get_bind (fun _ _ _ => rfl) fun p => ?_
  split
  · exact .pure _
  · refine .bind (ask_likens t _) fun r => ?_
    rcases r with e | _ | _
    · exact .pure _
    · refine .bind (ask_likens t _) fun r => ?_
      cases r <;> exact .pure _
    · refine .bind (ask_likens t _) fun r => ?_
      cases r with
      | error _ => exact .pure _
      | ok c => exact .bind newPromise_likens fun _ => .pure _

theorem markDisposed_likens (l : LoopId) : Likens i (markDisposed l) := by
  refine .get_bind (fun _ _ _ => rfl) fun p => ?_
  split
  · exact .pure _
  · exact .bind (modifyLoop_likens l _) fun _ => .pure _

theorem endDispose_likens (t : ThreadId) (l : LoopId) : Likens i (endDispose t l) := by
  refine .get_bind (fun _ _ _ => rfl) fun p => ?_
  dsimp only
  split
  · exact .bind (close_likens t l _) fun _ => ask_likens t _
  · exact .bind (note_likens _) fun _ => .pure _

theorem noteDisposal_likens (result : Except Error Unit) : Likens i (noteDisposal result) := by
  cases result with
  | ok _ => exact .pure _
  | error _ => exact note_likens _

theorem releaseLoop_likens (t : ThreadId) (l : LoopId) : Likens i (releaseLoop t l) :=
  .get_bind (fun _ _ _ => rfl) fun _ => tell_likens t _

theorem disown_likens (l : LoopId) : Likens i (disown l) :=
  .bind (modifyLoop_likens l _) fun _ => .get_bind (fun _ _ _ => rfl) fun _ => .pure _

end Bridge

namespace Activity

variable {i : PromiseId}

/-! Environments -/

theorem disposal_likens (t : ThreadId) (l : LoopId) (dropped : Bool) :
    Likens i (disposal t l dropped) := by
  refine .bind (markDisposed_likens l) fun marked => ?_
  cases marked with
  | true => exact .pure _
  | false =>
    cases dropped with
    | true => exact .bind (releaseLoop_likens t l) fun _ => .pure _
    | false => exact .pure _

theorem markClosed_likens (e : EnvironmentId) : Likens i (markClosed e) := by
  refine .get_bind (fun _ _ _ => rfl) fun p => ?_
  dsimp only
  split
  · exact .pure _
  · exact .bind (modifyEnvironment_likens e _) fun _ => .pure _

theorem closing_likens (t : ThreadId) (e : EnvironmentId) : Likens i (closing t e) := by
  refine .bind (markClosed_likens e) fun found => ?_
  rcases found with _ | _ | l
  · exact .pure _
  · exact .pure _
  · refine .bind (markDisposed_likens l) fun marked => ?_
    cases marked <;> exact .pure _

theorem beginStart_likens (o : Options) : Likens i (beginStart o) := by
  rintro p _ @⟨qs, journal, alike⟩
  rw [beginStart_eq, beginStart_eq]
  dsimp only
  split
  · exact ⟨rfl, .intro journal alike⟩
  · exact ⟨rfl, Process.Keeps.enroll o _ _ (.intro journal alike)⟩

theorem resolve_likens (t : ThreadId) (e : EnvironmentId) : Likens i (resolve t e) := by
  refine .get_bind (fun _ _ _ => rfl) fun p => .bind (ask_likens t _) fun r => ?_
  cases r with
  | ok b => exact .bind (modifyEnvironment_likens e _) fun _ => .pure _
  | error _ => exact .pure _

theorem dropBindings_likens (t : ThreadId) (e : EnvironmentId) : Likens i (dropBindings t e) := by
  refine .get_bind (fun _ _ _ => rfl) fun p => ?_
  split
  · exact .pure _
  · exact .bind (modifyEnvironment_likens e _) fun _ => tell_likens t _

theorem releaseDefault_likens (t : ThreadId) (loop : Option LoopId) :
    Likens i (releaseDefault t loop) := by
  cases loop with
  | none => exact .pure _
  | some l =>
    refine .bind (disown_likens l) fun last => ?_
    cases last with
    | true => exact releaseLoop_likens t l
    | false => exact .pure _

theorem settleClose_likens (t : ThreadId) (e : EnvironmentId) (loop : Option LoopId) (waited : Bool) :
    Likens i (settleClose t e loop waited) := by
  have disposed : Likens i (endDefault t loop waited) := by
    cases loop with
    | none => exact .pure _
    | some l =>
      cases waited with
      | true => exact endDispose_likens t l
      | false => exact .pure _
  refine .bind disposed fun disposed => .bind (releaseDefault_likens t loop) fun _ => ?_
  refine .bind (dropBindings_likens t e) fun _ => .get_bind (fun _ _ _ => rfl) fun p => ?_
  refine .bind (modifyEnvironment_likens e _) fun _ => ?_
  simp only [decideClose]
  split
  · exact .pure _
  · split
    · exact .pure _
    · cases disposed <;> exact .bind (note_likens _) fun _ => .pure _

theorem finishClose_likens (t : ThreadId) (finalizes : Bool) : Likens i (finishClose t finalizes) := by
  have vacated : Likens i (modify fun p : Process => { p with active := false }) :=
    .modify (.of_apart (fun _ => rfl) fun _ _ journal => ⟨journal, rfl⟩)
  cases finalizes with
  | true => exact .bind (.modify (.finalize t)) fun _ => vacated
  | false => exact vacated

end Activity

/-! ## Systems that are alike -/

theorem Chore.run_likens {i : PromiseId} (t : ThreadId) (c : Chore) : Likens i (c.run t) := by
  cases c with
  | enqueue l r =>
    refine .bind (push_likens t l r) fun pushed => ?_
    rcases pushed with _ | _ | n
    · exact .bind (discard_likens t r _) fun _ => .pure _
    · exact .pure _
    · exact .pure _
  | wake n => exact .bind (wake_likens t n) fun _ => .pure _
  | endDispose l dropped =>
    refine .bind (endDispose_likens t l) fun result => ?_
    cases dropped with
    | true =>
      exact .bind (noteDisposal_likens result) fun _ => .bind (releaseLoop_likens t l) fun _ => .pure _
    | false => exact .pure _
  | resolve e =>
    refine .bind (resolve_likens t e) fun r => ?_
    cases r with
    | ok _ => exact .pure _
    | error _ => exact closing_likens t e
  | settleClose e loop waited => exact .bind (settleClose_likens t e loop waited) fun _ => .pure _
  | finishClose finalizes => exact .bind (finishClose_likens t finalizes) fun _ => .pure _

theorem Action.run_likens {i : PromiseId} (a : Action) : Likens i a.run := by
  cases a with
  | operate t op => exact .bind (tell_likens t op) fun _ => .pure _
  | newSource => exact .bind newSource_likens fun _ => .pure _
  | cancel t source => exact .bind (raiseSignal_likens source) fun _ => .pure _
  | submit t l awaitable token =>
    refine .bind (prepare_likens t l awaitable token) fun r => ?_
    cases r <;> exact .pure _
  | abandon t j => exact .bind (abandon_likens t j) fun _ => .pure _
  | openLoop t e => exact .bind (openLoop_likens t e) fun _ => .pure _
  | openDefault t e => exact .bind (defaultLoop_likens t e) fun _ => .pure _
  | share l => exact .bind (modifyLoop_likens l _) fun _ => .pure _
  | limit l duration => exact .bind (modifyLoop_likens l _) fun _ => .pure _
  | dispose t l => exact disposal_likens t l false
  | dropLoop t l =>
    refine .bind (disown_likens l) fun last => ?_
    cases last with
    | true => exact disposal_likens t l true
    | false => exact .pure _
  | start t o =>
    refine .bind (beginStart_likens o) fun r => ?_
    cases r <;> exact .pure _
  | close t e =>
    refine .get_bind (fun _ _ _ => rfl) fun p => ?_
    split
    · exact closing_likens t e
    · exact .pure _
  | drive l => exact .bind (step_likens l) fun _ => .pure _
  | proceed n => exact .pure _

namespace System

/-- Whether two systems differ in how a promise stands and in the journal only. -/
structure SameBut (i : PromiseId) (s s' : System) : Prop where
  process : s.process.SameBut i s'.process
  chores : s'.chores = s.chores

variable {i : PromiseId} {s s' : System}

theorem SameBut.after {x : Activity Chores} (hx : Likens i x) {p q : Process} (h : p.SameBut i q)
    (chores : Chores) : SameBut i (System.after chores x p) (System.after chores x q) := by
  obtain ⟨same, next⟩ := hx p q h
  exact ⟨next, congrArg (chores ++ ·) same⟩

theorem SameBut.step (h : SameBut i s s') (a : Action) : SameBut i (s.step a) (s'.step a) := by
  obtain ⟨process, chores⟩ := h
  cases a with
  | proceed n =>
    simp only [System.step, chores]
    split
    · exact ⟨process, chores⟩
    · next t c _ => exact .after (c.run_likens t) process _
  | _ =>
    simp only [System.step, chores]
    exact .after (Action.run_likens _) process _

/-- Systems that differ in one promise go on in the same way. -/
theorem SameBut.steps (h : SameBut i s s') (later : List Action) :
    SameBut i (later.foldl System.step s) (later.foldl System.step s') := by
  induction later generalizing s s' with
  | nil => exact h
  | cons a later ih => exact ih (h.step a)

end System

end EmbeddedPython
