import EmbeddedPython.Proofs.Environment.Declining

/-
  Queues that are cleared

  A driver that leaves lets go of its notifier and of every request in its queue,
  one after the other. `Process.without` leaves one of the requests out and drops
  its handle before. What the driver drops and what has been dropped before do
  not get in each other's way, so that leaving commutes with leaving out, up to
  what the caller of the request is told.
-/

namespace EmbeddedPython

open Activity Bridge

variable {t : ThreadId} {l : LoopId} {c : Handle} {i : PromiseId} {e : Error} {p : Process}

/-- Whether it makes no difference when a handle is dropped. -/
structure Handle.Free (c : Handle) (h : Host) : Prop where
  alive : h.lock.alive = true
  /-- it is not to an object of another interpreter, the drops of which are noted in order -/
  current : c.stray h = []

theorem Handle.Free.perform {α : Type} {h : Host} (free : c.Free h) (op : Op α) (t : ThreadId) :
    c.Free (op.perform t h).2 :=
  ⟨Op.alive_perform op t free.alive, (c.stray_perform op t h).trans free.current⟩

namespace Process

/-- A process where a handle has been dropped. -/
def dropping (p : Process) (t : ThreadId) (c : Handle) : Process :=
  { p with host := (c.drop.perform t p.host).2 }

/-- A process where a handle has been dropped, with another queue of a loop. -/
def without (p : Process) (t : ThreadId) (c : Handle) (l : LoopId) (rs : List Request) : Process :=
  (p.changeLoop l fun x => { x with requests := rs }).dropping t c

end Process

namespace Bridge

open Process

theorem clearNext_eq {r : Request} {waits : List Request} (h : (p.loop l).requests = r :: waits) :
    (clearNext t l e p).2 = (tell t r.drop (p.clear l e)).2 := by
  simp only [clearNext, run_get_bind, h]
  rfl

/-- Whether a caller has been given no object. -/
def Unanswered (i : PromiseId) (p : Process) : Prop := ∀ x, (p.promise i).stage ≠ .settled (.ok x)

theorem Unanswered.clearNext (unanswered : Unanswered i p) : Unanswered i (clearNext t l e p).2 := by
  intro x hx
  cases h : (p.loop l).requests with
  | nil =>
    simp only [Bridge.clearNext, run_get_bind, h] at hx
    exact unanswered x hx
  | cons r waits =>
    rw [clearNext_eq h, (tell_idle t _ _).promise] at hx
    simp only [clear, h] at hx
    cases r with
    | schedule _ _ j =>
      simp only [answer, Request.promise?, settle, promise_changePromise] at hx
      split at hx
      · cases hx
      · exact unanswered x hx
    | _ => exact unanswered x hx

/-- The first part of closing a queue: the notifier is let go of. -/
def shut (t : ThreadId) (l : LoopId) : Activity Unit := do
  let x := (← get).loop l
  modifyLoop l fun x => { x with notifier := none }
  match x.notifier with
  | some n => do
    tell t n.callSoon.drop
    tell t n.stop.drop
  | none => pure ()

theorem shut_eq (t : ThreadId) (l : LoopId) (p : Process) : (shut t l p).2 =
    match (p.loop l).notifier with
    | some n => (tell t n.stop.drop (tell t n.callSoon.drop
        (p.changeLoop l fun x => { x with notifier := none })).2).2
    | none => p.changeLoop l fun x => { x with notifier := none } := by
  simp only [shut, run_get_bind]
  cases (p.loop l).notifier <;> rfl

theorem close_eq (t : ThreadId) (l : LoopId) (e : Error) (p : Process) : (close t l e p).2 =
    ((p.loop l).requests.forM (fun _ => clearNext t l e) (shut t l p).2).2 := by
  rw [shut_eq]
  simp only [close, run_get_bind]
  cases (p.loop l).notifier <;> rfl

end Bridge

/-- Whether an operation asks nothing of any object, and leaves no exception behind. -/
def Op.Mute {α : Type} (op : Op α) : Prop := ∀ (t : ThreadId) (h : Host), h.Resembles (op.perform t h).2

namespace Op.Mute

variable {α β : Type}

theorem of_quiet {op : Op α} (h : Quiet op) : Mute op := by
  intro t k
  obtain ⟨_, _, done, same⟩ := h.2 t k
  exact done ▸ same

theorem bind {op : Op α} {next : α → Op β} (ho : Mute op) (hn : ∀ a, Mute (next a)) :
    Mute (op >>= next) := by
  intro t h
  have first := ho t h
  rw [perform_bind]
  generalize op.perform t h = r at first ⊢
  obtain ⟨f | a, k⟩ := r
  · exact first
  · exact first.trans (hn a t k)

theorem release : Mute release := fun t h => by
  rw [release_eq]
  exact ⟨rfl, rfl, rfl⟩

end Op.Mute

namespace Bridge

open Process

/-- Whether an activity asks nothing of any object. -/
def Mute {α : Type} (x : Activity α) : Prop := ∀ p : Process, p.host.Resembles (x p).2.host

namespace Mute

variable {α β : Type}

theorem pure (a : α) : Mute (Pure.pure a) := fun p => .refl p.host

theorem bind {x : Activity α} {f : α → Activity β} (hx : Mute x) (hf : ∀ a, Mute (f a)) :
    Mute (x >>= f) := fun p => (hx p).trans (hf _ _)

theorem get_bind {f : Process → Activity β} (hf : ∀ p, Mute (f p)) : Mute (get >>= f) :=
  fun p => hf p p

theorem modify {f : Process → Process} (host : ∀ p, (f p).host = p.host) : Mute (modify f) :=
  fun p => (host p).symm ▸ .refl p.host

theorem tell {op : Op Unit} (mute : op.Mute) (t : ThreadId) : Mute (Activity.tell t op) := by
  intro p
  rw [tell_host]
  exact mute t p.host

theorem forM {xs : List α} {f : α → Activity Unit} (hf : ∀ a, Mute (f a)) : Mute (xs.forM f) := by
  induction xs with
  | nil => exact pure ()
  | cons x xs ih => exact bind (hf x) fun _ => ih

end Mute

theorem drop_mute (x : Handle) : x.drop.Mute := .of_quiet x.drop_quiet

theorem request_mute (r : Request) : r.drop.Mute := by
  cases r with
  | schedule x _ _ => exact drop_mute x
  | _ => exact fun _ h => .refl h

theorem clearNext_mute (t : ThreadId) (l : LoopId) (e : Error) : Mute (clearNext t l e) := by
  refine .get_bind fun p => ?_
  split
  · exact .pure _
  · next r _ _ => exact .bind (.modify fun p => p.clear_host l e) fun _ => .tell (request_mute r) t

theorem close_mute (t : ThreadId) (l : LoopId) (e : Error) : Mute (close t l e) := by
  intro p
  rw [close_eq, shut_eq]
  refine .trans ?_ (Mute.forM (fun _ => clearNext_mute t l e) _)
  cases (p.loop l).notifier with
  | none => exact .refl p.host
  | some n =>
    have first := Mute.tell (drop_mute n.callSoon) t (p.changeLoop l fun x => { x with notifier := none })
    exact first.trans (Mute.tell (drop_mute n.stop) t _)

theorem leave_mute (l : LoopId) : Mute (leave l) := by
  refine .bind (close_mute _ l _) fun _ => .get_bind fun p => ?_
  refine .bind (.tell ?_ _) fun _ => .modify fun _ => rfl
  exact .bind (drop_mute _) fun _ => .bind (drop_mute _) fun _ => .bind (drop_mute _) fun _ =>
    .bind (drop_mute _) fun _ => .release

end Bridge

end EmbeddedPython
