import EmbeddedPython.Environment.System

/-
  What leaves the bridge alone

  Most of what an activity does is work on the interpreter, on the signals or
  on the log. The loops, the promises, the environments and the journal stay as
  they are meanwhile, and the interpreter stays initialized if it is.
-/

namespace EmbeddedPython

/-- What a process may become while nothing happens to its loops, promises and environments. -/
structure Process.Idles (p q : Process) : Prop where
  host : p.host.Becomes q.host
  loops : q.loops = p.loops
  promises : q.promises = p.promises
  environments : q.environments = p.environments
  active : q.active = p.active
  journal : q.journal = p.journal

namespace Process.Idles

theorem refl (p : Process) : p.Idles p := ⟨.refl _, rfl, rfl, rfl, rfl, rfl⟩

theorem trans {p q r : Process} (pq : p.Idles q) (qr : q.Idles r) : p.Idles r where
  host := pq.host.trans qr.host
  loops := qr.loops.trans pq.loops
  promises := qr.promises.trans pq.promises
  environments := qr.environments.trans pq.environments
  active := qr.active.trans pq.active
  journal := qr.journal.trans pq.journal

theorem loop {p q : Process} (h : p.Idles q) (l : LoopId) : q.loop l = p.loop l := by
  simp [Process.loop, h.loops]

theorem promise {p q : Process} (h : p.Idles q) (i : PromiseId) : q.promise i = p.promise i := by
  simp [Process.promise, h.promises]

theorem environment {p q : Process} (h : p.Idles q) (e : EnvironmentId) :
    q.environment e = p.environment e := by
  simp [Process.environment, h.environments]

theorem of_host {p : Process} {h : Host} (hh : p.host.Becomes h) : p.Idles { p with host := h } :=
  ⟨hh, rfl, rfl, rfl, rfl, rfl⟩

end Process.Idles

namespace Activity

variable {α β : Type}

@[simp] theorem run_pure (a : α) (p : Process) : (pure a : Activity α) p = (a, p) := rfl

theorem run_bind (x : Activity α) (f : α → Activity β) (p : Process) :
    (x >>= f) p = f (x p).1 (x p).2 := rfl

@[simp] theorem run_get_bind (f : Process → Activity β) (p : Process) :
    (get >>= f : Activity β) p = f p p := rfl

@[simp] theorem run_set_bind (q : Process) (f : PUnit → Activity β) (p : Process) :
    (set q >>= f : Activity β) p = f ⟨⟩ q := rfl

@[simp] theorem run_modify_bind (f : Process → Process) (g : PUnit → Activity β) (p : Process) :
    (modify f >>= g : Activity β) p = g ⟨⟩ (f p) := rfl

@[simp] theorem run_modify (f : Process → Process) (p : Process) :
    (modify f : Activity PUnit) p = (⟨⟩, f p) := rfl

/-- Whether an activity leaves the bridge alone. -/
def Idle (x : Activity α) : Prop := ∀ p : Process, p.Idles (x p).2

namespace Idle

theorem pure (a : α) : Idle (Pure.pure a) := fun p => .refl p

theorem bind {x : Activity α} {f : α → Activity β} (hx : Idle x) (hf : ∀ a, Idle (f a)) :
    Idle (x >>= f) :=
  fun p => (hx p).trans (hf _ _)

theorem get_bind {f : Process → Activity β} (hf : ∀ p, Idle (f p)) : Idle (get >>= f) :=
  fun p => hf p p

theorem modify {f : Process → Process} (hf : ∀ p : Process, p.Idles (f p)) : Idle (modify f) := hf

theorem forM {xs : List α} {f : α → Activity Unit} (hf : ∀ a, Idle (f a)) : Idle (xs.forM f) := by
  induction xs with
  | nil => exact pure ()
  | cons x xs ih => exact bind (hf x) fun _ => ih

theorem mapM {xs : List α} {f : α → Activity β} (hf : ∀ a, Idle (f a)) : Idle (xs.mapM f) := by
  induction xs with
  | nil =>
    rw [List.mapM_nil]
    exact pure []
  | cons x xs ih =>
    rw [List.mapM_cons]
    exact bind (hf x) fun y => bind ih fun ys => pure (y :: ys)

end Idle

/-! ## Work on the interpreter, the log and the signals -/

/-- The answer to an operation depends on the host alone. -/
theorem ask_fst (t : ThreadId) (op : Op α) (p : Process) : (ask t op p).1 =
    match (op.perform t p.host).1 with
    | .ok a => .ok a
    | .error (.error e) => .error e
    | .error _ => .error .eventLoopClosed := by
  simp only [ask]
  rcases op.perform t p.host with ⟨e | a, h⟩
  · cases e <;> rfl
  · rfl

/-- An operation changes the host alone. -/
theorem ask_snd (t : ThreadId) (op : Op α) (p : Process) :
    (ask t op p).2 = { p with host := (op.perform t p.host).2 } := by
  simp only [ask]
  split <;> rename_i hr <;> rw [hr]

section

variable {t : ThreadId} {op : Op α} {p q : Process}

theorem ask_ok {a : α} (h : ask t op p = (.ok a, q)) : op.perform t p.host = (.ok a, q.host) := by
  simp only [ask] at h
  generalize op.perform t p.host = b at h ⊢
  obtain ⟨(e | _ | _) | a', k⟩ := b <;> cases h
  rfl

theorem ask_changes {r : Except Error α} (h : ask t op p = (r, q)) :
    q = { p with host := q.host } := by
  have changed := ask_snd t op p
  rw [h] at changed
  obtain rfl : q = _ := changed
  rfl

end

theorem ask_idle (t : ThreadId) (op : Op α) : Idle (ask t op) := by
  intro p
  rw [ask_snd]
  exact .of_host (op.keeps t p.host)

theorem ask_idles {t : ThreadId} {op : Op α} {p q : Process} {r : Except Error α}
    (h : ask t op p = (r, q)) : p.Idles q := by
  have idles := ask_idle t op p
  rwa [h] at idles

theorem tell_idle (t : ThreadId) (op : Op Unit) : Idle (tell t op) :=
  .bind (ask_idle t op) fun _ => .pure ()

theorem note_idle (m : LogMessage) : Idle (note m) :=
  .modify fun _ => .of_host (.of_memory_eq rfl rfl rfl rfl)

end Activity

namespace Bridge

open Activity

theorem giveUp_idle (r : Cancellation.Registration) : Idle (giveUp r) := by
  refine .modify fun p => ?_
  split
  · exact ⟨.refl _, rfl, rfl, rfl, rfl, rfl⟩
  · exact .refl p

theorem wake_idle (t : ThreadId) (n : Notifier) : Idle (wake t n) := tell_idle t _

theorem keepOutcome_idle (t : ThreadId) (i : PromiseId) (o : Outcome) :
    Idle (keepOutcome t i o) := by
  refine .get_bind fun p => ?_
  split
  · exact ask_idle t _
  · exact .pure _

theorem newSource_idle : Idle newSource := fun _ => ⟨.refl _, rfl, rfl, rfl, rfl, rfl⟩

theorem raiseSignal_idle (i : Nat) : Idle (raiseSignal i) :=
  fun _ => ⟨.refl _, rfl, rfl, rfl, rfl, rfl⟩

theorem cancelTask_idle (t : ThreadId) (x : Tracked) : Idle (cancelTask t x) := by
  refine .bind (giveUp_idle _) fun _ => .bind (ask_idle t _) fun r => ?_
  cases r with
  | ok _ => exact .pure ()
  | error _ => exact note_idle _

theorem noteDisposal_idle (r : Except Error Unit) : Idle (noteDisposal r) := by
  cases r with
  | ok _ => exact .pure ()
  | error _ => exact note_idle _

theorem releaseLoop_idle (t : ThreadId) (l : LoopId) : Idle (releaseLoop t l) :=
  .get_bind fun _ => tell_idle t _

end Bridge

end EmbeddedPython
