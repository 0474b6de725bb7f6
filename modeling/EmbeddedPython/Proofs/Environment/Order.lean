import EmbeddedPython.Proofs.Environment.Turn
import Mathlib.Data.List.TakeWhile

/-
  The order of requests

  Requests leave a queue in the order in which they were pushed, and the driver
  decides each of them before it takes the next. Once it has taken a request to
  stop, it asks every task to cancel and starts no task any more.
-/

namespace EmbeddedPython

open Activity Bridge

/-- The task that a driver has started and does not keep track of yet. -/
def Bridge.Phase.task? : Bridge.Phase → Option Tracked
  | registering _ _ x | accepting _ x => some x
  | _ => none

namespace Bridge.Desk

/-- The tasks of a driver, with the one that it is setting up. -/
def live (d : Desk) : List Tracked := d.tasks ++ d.phase.task?.toList

end Bridge.Desk

/-- What a request is about. -/
inductive Bridge.Aim where
  | promise (i : PromiseId)
  | task (id : TaskId)
  /-- the driver itself -/
  | driver

def Bridge.Request.aim : Request → Aim
  | schedule _ _ i => .promise i
  | cancel id => .task id
  | stop => .driver

/-- The request that a driver has taken out and not decided yet. -/
def Bridge.Desk.undecided (d : Desk) : List Aim :=
  match d.phase with
  | .starting _ _ i => [.promise i]
  | _ => []

/-! ## What a history says about one queue -/

/-- The requests that a queue has taken. -/
def pushed (deeds : List Deed) : List Request :=
  deeds.filterMap fun
    | .push _ r => some r
    | _ => none

/-- The requests that have been taken out of a queue, by the driver or because it was closed. -/
def removed (deeds : List Deed) : List Request :=
  deeds.filterMap fun
    | .take _ r | .clear _ r => some r
    | _ => none

/-- What the requests that have taken effect were about, in the order of their effects. A request to
cancel or to stop is handled when it is taken; one for a task when the task is started or refused,
or when the request is handed back because the queue is closed. -/
def effects (deeds : List Deed) : List Aim :=
  deeds.filterMap fun
    | .take _ (.cancel id) => some (.task id)
    | .take _ .stop => some .driver
    | .start _ _ i _ | .reject _ i _ => some (.promise i)
    | .clear _ r => some r.aim
    | _ => none

/-- What has been done from the first request to stop on. -/
def sinceStop (l : LoopId) (deeds : List Deed) : List Deed :=
  deeds.dropWhile (· != .take l .stop)

theorem pushed_append (a b : List Deed) : pushed (a ++ b) = pushed a ++ pushed b :=
  List.filterMap_append

theorem removed_append (a b : List Deed) : removed (a ++ b) = removed a ++ removed b :=
  List.filterMap_append

theorem effects_append (a b : List Deed) : effects (a ++ b) = effects a ++ effects b :=
  List.filterMap_append

theorem sinceStop_of_not_mem {l : LoopId} {deeds : List Deed} (h : .take l .stop ∉ deeds) :
    sinceStop l deeds = [] :=
  List.dropWhile_eq_nil_iff.mpr fun _ hd => bne_iff_ne.mpr fun he => h (he ▸ hd)

theorem sinceStop_append_of_mem {l : LoopId} {a : List Deed} (h : .take l .stop ∈ a)
    (b : List Deed) : sinceStop l (a ++ b) = sinceStop l a ++ b := by
  have hne : ¬ (a.dropWhile (· != .take l .stop)).isEmpty = true := by
    rw [List.isEmpty_iff, List.dropWhile_eq_nil_iff]
    intro hn
    exact bne_iff_ne.mp (hn _ h) rfl
  rw [sinceStop, List.dropWhile_append, if_neg hne]
  rfl

theorem sinceStop_append_of_not_mem {l : LoopId} {a : List Deed} (h : .take l .stop ∉ a)
    (b : List Deed) : sinceStop l (a ++ b) = sinceStop l b :=
  List.dropWhile_append_of_pos fun _ hd => bne_iff_ne.mpr fun he => h (he ▸ hd)

theorem Bridge.Desk.mem_live_withdraw {d : Desk} {x : Tracked} (hx : x ∈ d.live)
    (p : TaskId → Bool) : ∃ y ∈ (d.withdraw p).live, y.id = x.id := by
  rcases List.mem_append.mp hx with hx | hx
  · refine ⟨_, List.mem_append_left _ (List.mem_map_of_mem hx), ?_⟩
    split <;> rfl
  · exact ⟨x, List.mem_append_right _ hx, rfl⟩

/-- A task that is being set up stays the same task when it is registered. -/
theorem Bridge.Desk.mem_live_of_replace {d d' : Desk} {c : Handle} {token : Cancellation.Token}
    {x x' y : Tracked} (phase : d.phase = .registering c token x)
    (next : d'.phase = .accepting c x') (tasks : d'.tasks = d.tasks) (hy : y ∈ d.live)
    (same : x'.id = x.id) : ∃ z ∈ d'.live, z.id = y.id := by
  simp only [live, phase, next, tasks, Phase.task?, Option.toList_some, List.mem_append,
    List.mem_singleton] at hy ⊢
  rcases hy with hy | rfl
  · exact ⟨y, .inl hy, rfl⟩
  · exact ⟨x', .inr rfl, same⟩

theorem Bridge.Desk.perm_of_getElem? {xs : List Tracked} {n : Nat} {x : Tracked}
    (h : xs[n]? = some x) : (x :: xs.eraseIdx n).Perm xs := by
  obtain ⟨hn, rfl⟩ := List.getElem?_eq_some_iff.mp h
  exact List.getElem_cons_eraseIdx_perm hn

/-- What a turn of a desk adds to the history of its loop. -/
structure Advances (l : LoopId) (d : Desk) (ds : List Deed) (d' : Desk) : Prop where
  order : d.requests ++ pushed ds = removed ds ++ d'.requests := by simp [pushed, removed]
  effective : d.undecided ++ (removed ds).map Request.aim = effects ds ++ d'.undecided
  stopping : d'.stopping = true ↔ d.stopping = true ∨ .take l .stop ∈ ds := by simp
  idle : d'.stopping = true → d'.phase.task? = none
  /-- a request to stop is taken alone -/
  alone : .take l .stop ∈ ds → ∀ e ∈ ds, e = .take l .stop ∨ ∃ id, e = .ask l id := by simp
  started : ∀ id i token, .start l id i token ∈ ds →
    d.stopping = false ∧ ∃ x ∈ d'.live, x.id = id := by simp
  lasts : ∀ x ∈ d.live, .finish l x.id ∈ ds ∨ ∃ y ∈ d'.live, y.id = x.id
  taken : ∀ c token i, .take l (.schedule c token i) ∈ ds →
    d'.phase = .starting c token i := by simp
  decides : ∀ c token i, d.phase = .starting c token i → d'.phase = .starting c token i ∨
    (d.stopping = true ∧ .reject l i .stopping ∈ ds) ∨
    (d.stopping = false ∧ ((∃ why, .reject l i why ∈ ds) ∨ ∃ id, .start l id i token ∈ ds))
  stopped : ∀ i, .reject l i .stopping ∈ ds → d.stopping = true := by simp

/-- Whether a deed neither puts a request into a queue, takes it out nor decides it. -/
def Deed.isCalm : Deed → Bool
  | track _ _ | ask _ _ | finish _ _ => true
  | _ => false

section

variable {l : LoopId} {ds : List Deed} {d d' : Desk}

/-- A turn that is about no request. -/
theorem Advances.calm (requests : d'.requests = d.requests) (stopping : d'.stopping = d.stopping)
    (before : d.undecided = []) (after : d'.undecided = [])
    (idle : d'.stopping = true → d'.phase.task? = none) (calm : ∀ e ∈ ds, e.isCalm = true)
    (lasts : ∀ x ∈ d.live, .finish l x.id ∈ ds ∨ ∃ y ∈ d'.live, y.id = x.id) :
    Advances l d ds d' := by
  have none {α : Type} {f : Deed → Option α} (h : ∀ e, e.isCalm = true → f e = Option.none) :
      ds.filterMap f = [] := List.filterMap_eq_nil_iff.mpr fun e he => h e (calm e he)
  have pushed : pushed ds = [] := none fun e he => by cases e <;> first | rfl | cases he
  have removed : removed ds = [] := none fun e he => by cases e <;> first | rfl | cases he
  have effects : effects ds = [] := none fun e he => by cases e <;> first | rfl | cases he
  have absent {e : Deed} (h : e.isCalm = false) : e ∉ ds := fun he =>
    Bool.noConfusion (h.symm.trans (calm e he))
  exact {
    order := by rw [pushed, removed, requests, List.append_nil]; rfl
    effective := by rw [removed, effects, before, after]; rfl
    stopping := by rw [stopping, or_iff_left (absent rfl)]
    idle := idle
    alone := fun ht => absurd ht (absent rfl)
    started := fun _ _ _ hs => absurd hs (absent rfl)
    lasts := lasts
    taken := fun _ _ _ ht => absurd ht (absent rfl)
    decides := fun c token i hp => by
      rw [Desk.undecided, hp] at before
      cases before
    stopped := fun _ hr => absurd hr (absent rfl) }

/-- A request is put into the queue. -/
theorem Advances.push (r : Request) (requests : d'.requests = d.requests ++ [r])
    (stopping : d'.stopping = d.stopping) (undecided : d'.undecided = d.undecided)
    (starting : ∀ c token i, d.phase = .starting c token i → d'.phase = .starting c token i)
    (idle : d'.stopping = true → d'.phase.task? = none)
    (lasts : ∀ x ∈ d.live, ∃ y ∈ d'.live, y.id = x.id) : Advances l d [.push l r] d' where
  order := by simp [pushed, removed, requests]
  effective := by simp [removed, effects, undecided]
  stopping := by simp [stopping]
  idle := idle
  lasts x hx := .inr (lasts x hx)
  decides c token i hp := .inl (starting c token i hp)

/-- What every turn of a desk adds. A driver that is to stop has no task to keep track of. -/
theorem Bridge.Desk.Turn.advances (turn : d.Turn l ds d')
    (idle : d.stopping = true → d.phase.task? = none) : Advances l d ds d' := by
  have running {x : Tracked} (hx : d.phase.task? = some x) : d.stopping = false :=
    Bool.eq_false_iff.mpr fun hs => by simp [idle hs] at hx
  cases turn with
  | idle =>
    exact { effective := by simp [removed, effects], idle, lasts := fun x hx => .inr ⟨x, hx, rfl⟩,
            decides := fun _ _ _ hp => .inl hp }
  | opened vacant =>
    subst vacant
    exact .calm rfl rfl rfl rfl nofun (by simp) (by simp [Desk.live, Desk.vacant, Phase.task?])
  | push r isOpen =>
    exact .push r rfl rfl rfl (fun _ _ _ hp => hp) idle fun x hx => ⟨x, hx, rfl⟩
  | go phase goes =>
    have here : d.phase.task? = none ∧ phase.task? = none := by
      cases goes <;> simp [*, Phase.task?]
    have hand : d.undecided = [] ∧ ({ d with phase := phase } : Desk).undecided = [] := by
      cases goes <;> simp [*, Desk.undecided]
    refine .calm rfl rfl hand.1 hand.2 (fun _ => here.2) (by simp) fun x hx => .inr ⟨x, ?_, rfl⟩
    simpa [Desk.live, here] using hx
  | fail phase =>
    have here : d.phase.task? = none ∧ d.undecided = [] := by
      rcases phase with hp | ⟨n, hp⟩ <;> simp [hp, Phase.task?, Desk.undecided]
    refine .calm rfl rfl here.2 rfl (fun _ => rfl) (by simp [Deed.isCalm]) fun x hx => ?_
    simp only [Desk.live, here.1, Option.toList_none, List.append_nil] at hx
    exact .inl (List.mem_map_of_mem (f := fun x => Deed.finish l x.id) hx)
  | takeSchedule c token i rest phase hr =>
    exact {
      order := by simp [pushed, removed, hr]
      effective := by simp [removed, effects, Desk.undecided, phase, Request.aim]
      idle := fun _ => rfl
      lasts := fun x hx => .inr ⟨x, by simpa [Desk.live, phase, Phase.task?] using hx, rfl⟩
      taken := by simp +contextual
      decides := by simp [phase] }
  | takeCancel id rest phase hr =>
    exact {
      order := by
        cases d.tasks.find? (·.id == id) <;> simp [pushed, removed, hr, Desk.withdraw]
      effective := by
        cases d.tasks.find? (·.id == id) <;>
          simp [removed, effects, Desk.undecided, Desk.withdraw, phase, Request.aim]
      stopping := by simp [Desk.withdraw]
      idle := idle
      lasts := fun x hx => .inr (Desk.mem_live_withdraw (d := { d with requests := rest }) hx _)
      decides := by simp [phase] }
  | takeStop rest phase hr run =>
    exact {
      order := by simp [pushed, removed, hr, Desk.withdraw]
      effective := by simp [removed, effects, Desk.undecided, Desk.withdraw, phase, Request.aim]
      stopping := by simp [Desk.withdraw]
      idle := by simp [Desk.withdraw, phase, Phase.task?]
      alone := fun _ e he => by
        rcases List.mem_cons.mp he with rfl | he
        · exact .inl rfl
        · obtain ⟨x, -, rfl⟩ := List.mem_map.mp he
          exact .inr ⟨x.id, rfl⟩
      lasts := fun x hx => .inr (Desk.mem_live_withdraw
        (d := { d with requests := rest, stopping := true }) hx _)
      decides := by simp [phase] }
  | takeAnother rest phase hr stopping =>
    exact {
      order := by simp [pushed, removed, hr]
      effective := by simp [removed, effects, Desk.undecided, phase, Request.aim]
      stopping := by simp [stopping]
      idle := idle
      lasts := fun x hx => .inr ⟨x, hx, rfl⟩
      decides := by simp [phase] }
  | reject c token i why phase hw =>
    exact {
      effective := by simp [removed, effects, Desk.undecided, phase]
      idle := fun _ => rfl
      lasts := fun x hx => .inr ⟨x, by simpa [Desk.live, phase, Phase.task?] using hx, rfl⟩
      decides := fun c' token' i' hp => by
        obtain ⟨rfl, rfl, rfl⟩ := Phase.starting.inj (phase.symm.trans hp)
        cases hs : d.stopping with
        | true => exact .inr (.inl ⟨rfl, by simp [hw.mpr hs]⟩)
        | false => exact .inr (.inr ⟨rfl, .inl ⟨why, List.mem_singleton_self _⟩⟩)
      stopped := fun i' hr => by
        simp only [List.mem_singleton, Deed.reject.injEq] at hr
        exact hw.mp hr.2.2.symm }
  | start c token i x phase run =>
    exact {
      effective := by simp [removed, effects, Desk.undecided, phase]
      idle := fun hs => absurd (run.symm.trans hs) Bool.false_ne_true
      started := fun id i' token' hs => by
        simp only [List.mem_singleton, Deed.start.injEq] at hs
        exact ⟨run, x, by simp [Desk.live, Phase.task?], hs.2.1.symm⟩
      lasts := fun y hy => by
        simp only [Desk.live, phase, Phase.task?, Option.toList_none, List.append_nil] at hy
        exact .inr ⟨y, List.mem_append_left _ hy, rfl⟩
      decides := fun c' token' i' hp => by
        obtain ⟨rfl, rfl, rfl⟩ := Phase.starting.inj (phase.symm.trans hp)
        exact .inr (.inr ⟨run, .inr ⟨x.id, List.mem_singleton_self _⟩⟩) }
  | register c token x r phase =>
    have run := running (x := x) (by rw [phase]; rfl)
    exact .calm rfl rfl (by simp [Desk.undecided, phase]) rfl (by simp [run]) (by simp)
      fun y hy => .inr (Desk.mem_live_of_replace phase rfl rfl hy rfl)
  | overtaken c token x phase =>
    have run := running (x := x) (by rw [phase]; rfl)
    exact .push _ rfl rfl (by simp [Desk.undecided, phase]) (by simp [phase]) (by simp [run])
      fun y hy => Desk.mem_live_of_replace phase rfl rfl hy rfl
  | accept c x phase =>
    refine .calm rfl rfl (by simp [Desk.undecided, phase]) rfl (fun _ => rfl) (by simp [Deed.isCalm])
      fun y hy => .inr ⟨y, ?_, rfl⟩
    simpa [Desk.live, phase, Phase.task?] using hy
  | disown c x phase =>
    refine .calm rfl rfl (by simp [Desk.undecided, phase]) rfl (fun _ => rfl) (by simp [Deed.isCalm])
      fun y hy => .inr (Desk.mem_live_withdraw ?_ _)
    simpa [Desk.live, phase, Phase.task?] using hy
  | conclude n x phase here =>
    refine .calm rfl rfl (by simp [Desk.undecided, phase])
      (by simp [Desk.undecided, phase])
      (by simp [phase, Phase.task?]) (by simp [Deed.isCalm]) fun y hy => ?_
    simp only [Desk.live, phase, Phase.task?, Option.toList_none, List.append_nil] at hy ⊢
    rcases List.mem_cons.mp ((Desk.perm_of_getElem? here).mem_iff.mpr hy) with rfl | hy
    · exact .inl (List.mem_singleton_self _)
    · exact .inr ⟨y, hy, rfl⟩
  | leave phase =>
    exact {
      effective := by simp [removed, effects, Desk.undecided, phase]
      idle := fun _ => rfl
      lasts := fun y hy => .inr ⟨y, by simpa [Desk.live, phase, Phase.task?] using hy, rfl⟩
      decides := by simp [phase] }

end

/-- What the history of a loop says about its desk. -/
structure InOrder (l : LoopId) (deeds : List Deed) (d : Desk) : Prop where
  order : pushed deeds = removed deeds ++ d.requests
  effective : (removed deeds).map Request.aim = effects deeds ++ d.undecided
  stopping : d.stopping = true ↔ .take l .stop ∈ deeds
  /-- a driver that is to stop has no task to keep track of -/
  idle : d.stopping = true → d.phase.task? = none
  /-- a task that has been started is there until it is finished -/
  lasts : ∀ id i token, .start l id i token ∈ deeds →
    .finish l id ∈ deeds ∨ ∃ x ∈ d.live, x.id = id
  /-- what has been taken is decided before anything else is taken -/
  decided : ∀ c token i, .take l (.schedule c token i) ∈ deeds → d.phase = .starting c token i ∨
    (∃ why, .reject l i why ∈ deeds) ∨ ∃ id, .start l id i token ∈ deeds
  stopped : ∀ i, .reject l i .stopping ∈ deeds → .take l .stop ∈ deeds
  /-- nothing is started after a request to stop -/
  unstarted : ∀ id i token, .start l id i token ∉ sinceStop l deeds
  refused : ∀ c token i, .take l (.schedule c token i) ∈ sinceStop l deeds →
    d.phase = .starting c token i ∨ .reject l i .stopping ∈ sinceStop l deeds

namespace InOrder

variable {l : LoopId} {H : List Deed} {d d' : Desk}

theorem initial (l : LoopId) : InOrder l [] Desk.vacant where
  order := rfl
  effective := rfl
  stopping := by simp [Desk.vacant]
  idle := by simp [Desk.vacant]
  lasts := by simp
  decided := by simp
  stopped := by simp
  unstarted := by simp [sinceStop]
  refused := by simp [sinceStop]

/-- What a turn adds keeps the order. -/
theorem advance (h : InOrder l H d) {ds : List Deed} (adds : Advances l d ds d') :
    InOrder l (H ++ ds) d' where
  order := by
    rw [pushed_append, removed_append, h.order, List.append_assoc, adds.order, List.append_assoc]
  effective := by
    rw [removed_append, effects_append, List.map_append, h.effective, List.append_assoc,
      adds.effective,
      List.append_assoc]
  stopping := by rw [adds.stopping, h.stopping, List.mem_append]
  idle := adds.idle
  lasts id i token hs := by
    rcases List.mem_append.mp hs with hs | hs
    · rcases h.lasts id i token hs with hf | ⟨x, hx, rfl⟩
      · exact .inl (List.mem_append_left _ hf)
      · exact (adds.lasts x hx).imp_left (List.mem_append_right _)
    · exact .inr (adds.started id i token hs).2
  decided c token i ht := by
    rcases List.mem_append.mp ht with ht | ht
    · rcases h.decided c token i ht with hp | ⟨why, hr⟩ | ⟨id, hs⟩
      · rcases adds.decides c token i hp with hp | ⟨-, hr⟩ | ⟨-, ⟨why, hr⟩ | ⟨id, hs⟩⟩
        · exact .inl hp
        · exact .inr (.inl ⟨_, List.mem_append_right _ hr⟩)
        · exact .inr (.inl ⟨why, List.mem_append_right _ hr⟩)
        · exact .inr (.inr ⟨id, List.mem_append_right _ hs⟩)
      · exact .inr (.inl ⟨why, List.mem_append_left _ hr⟩)
      · exact .inr (.inr ⟨id, List.mem_append_left _ hs⟩)
    · exact .inl (adds.taken c token i ht)
  stopped i hr := by
    rcases List.mem_append.mp hr with hr | hr
    · exact List.mem_append_left _ (h.stopped i hr)
    · exact List.mem_append_left _ (h.stopping.mp (adds.stopped i hr))
  unstarted id i token hs := by
    by_cases hm : .take l .stop ∈ H
    · rw [sinceStop_append_of_mem hm, List.mem_append] at hs
      rcases hs with hs | hs
      · exact h.unstarted id i token hs
      · exact Bool.noConfusion ((h.stopping.mpr hm).symm.trans (adds.started id i token hs).1)
    · rw [sinceStop_append_of_not_mem hm] at hs
      by_cases ha : .take l .stop ∈ ds
      · rcases adds.alone ha _ ((List.dropWhile_sublist _).subset hs) with he | ⟨_, he⟩ <;> cases he
      · rw [sinceStop_of_not_mem ha] at hs
        cases hs
  refused c token i ht := by
    by_cases hm : .take l .stop ∈ H
    · rw [sinceStop_append_of_mem hm, List.mem_append] at ht ⊢
      rcases ht with ht | ht
      · rcases h.refused c token i ht with hp | hr
        · rcases adds.decides c token i hp with hp | ⟨-, hr⟩ | ⟨running, -⟩
          · exact .inl hp
          · exact .inr (.inr hr)
          · rw [h.stopping.mpr hm] at running
            cases running
        · exact .inr (.inl hr)
      · exact .inl (adds.taken c token i ht)
    · rw [sinceStop_append_of_not_mem hm] at ht
      by_cases ha : .take l .stop ∈ ds
      · rcases adds.alone ha _ ((List.dropWhile_sublist _).subset ht) with he | ⟨_, he⟩ <;> cases he
      · rw [sinceStop_of_not_mem ha] at ht
        cases ht

/-- Every turn of a desk keeps the order. -/
theorem turn (h : InOrder l H d) {ds : List Deed} (turn : d.Turn l ds d') :
    InOrder l (H ++ ds) d' :=
  h.advance (turn.advances h.idle)

end InOrder

end EmbeddedPython
