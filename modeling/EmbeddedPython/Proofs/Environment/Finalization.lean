import EmbeddedPython.Proofs.Bridge.Lease
import EmbeddedPython.Proofs.Environment.Resolution

/-
  Finalization

  Environments follow one another, and `Stage` says where the process is: at
  most one environment is being started, is served or is being closed, and all
  others have lost their part in the interpreter. An environment that does not
  count a driver when it decides to finalize the interpreter is therefore the
  last one with a driver to count, also if drivers of earlier environments have
  outlived them: those were never finalized under, and nobody owns the
  interpreter after them.
-/

namespace EmbeddedPython

open Activity Bridge

/-! ## Environments that come and go -/

namespace Process

/-- Whether an environment has no part in the interpreter. -/
structure Vacant (p : Process) (e : EnvironmentId) : Prop where
  owns : (p.environment e).owns = false
  bindings : (p.environment e).bindings = none

theorem Vacant.same {p q : Process} {e : EnvironmentId} (hp : p.Vacant e) (h : SameOffices p q) :
    q.Vacant e :=
  ⟨(h.owns e).trans hp.owns, (h.bindings e).trans hp.bindings⟩

/-- A change to one environment is none to another. -/
theorem Vacant.other {p : Process} {e k : EnvironmentId} (hp : p.Vacant k) (h : k ≠ e)
    (f : Environment → Environment) : (p.changeEnvironment e f).Vacant k := by
  have hk : (p.changeEnvironment e f).environment k = p.environment k := by
    simp [environment_changeEnvironment, h]
  exact ⟨hk ▸ hp.owns, hk ▸ hp.bindings⟩

theorem environment_self {p : Process} {e : EnvironmentId} (h : e < p.environments.size)
    (f : Environment → Environment) :
    (p.changeEnvironment e f).environment e = f (p.environment e) := by
  simp [environment_changeEnvironment, h]

/-- An environment that gives something up leaves the accounts in order. -/
theorem Custody.resign {p : Process} (hp : p.Custody) (e : EnvironmentId)
    {f : Environment → Environment} (leases : ∀ x, (f x).leases = x.leases)
    (owns : ∀ x, (f x).owns = true → x.owns = true)
    (bindings : ∀ x, (f x).bindings.isSome = true → x.bindings.isSome = true) :
    (p.changeEnvironment e f).Custody := by
  have old (k : EnvironmentId) : ((p.changeEnvironment e f).environment k).leases =
        (p.environment k).leases ∧
      (((p.changeEnvironment e f).environment k).owns = true → (p.environment k).owns = true) ∧
      (((p.changeEnvironment e f).environment k).bindings.isSome = true →
        (p.environment k).bindings.isSome = true) := by
    rw [environment_changeEnvironment]
    split
    · next h => rw [h.1]; exact ⟨leases _, owns _, bindings _⟩
    · exact ⟨rfl, id, id⟩
  exact {
    counted := fun k => (old k).1.trans (hp.counted k)
    owned := fun k hk => hp.owned k ((old k).2.1 hk)
    absent := hp.absent
    tenant := fun k hk => ⟨(hp.tenant k ((old k).2.2 hk)).1, fun j hj =>
      (hp.tenant k ((old k).2.2 hk)).2 j ((old j).2.1 hj)⟩ }

/-- An environment may start drivers where there is an interpreter that nobody else owns. -/
theorem Custody.bind {p : Process} (hp : p.Custody) {e : EnvironmentId} (b : Bindings)
    (alive : p.host.lock.interpreter.isSome = true) (others : ∀ k, k ≠ e → p.Vacant k) :
    (p.changeEnvironment e fun x => { x with bindings := some b }).Custody := by
  have old (k : EnvironmentId) :
      ((p.changeEnvironment e fun x => { x with bindings := some b }).environment k).leases =
        (p.environment k).leases ∧
      ((p.changeEnvironment e fun x => { x with bindings := some b }).environment k).owns =
        (p.environment k).owns := by
    rw [environment_changeEnvironment]
    split
    · next h => rw [h.1]; exact ⟨rfl, rfl⟩
    · exact ⟨rfl, rfl⟩
  have sole (k : EnvironmentId) (h : (p.environment k).owns = true) : k = e := by
    refine Classical.byContradiction fun hk => ?_
    rw [(others k hk).owns] at h
    cases h
  refine ⟨fun k => (old k).1.trans (hp.counted k), fun k hk => hp.owned k ((old k).2 ▸ hk),
    hp.absent, fun k hk => ⟨alive, fun j hj => ?_⟩⟩
  rw [(old j).2] at hj
  have he : k = e := by
    refine Classical.byContradiction fun hne => ?_
    rw [((others k hne).other hne _).bindings] at hk
    cases hk
  rw [he, sole j hj]

/-! The first and the last part of an interpreter -/

theorem enroll_loop (p : Process) (o : Options) (l : LoopId) : (p.enroll o).loop l = p.loop l := by
  cases h : p.host.lock.alive <;> simp [loop, enroll, beginInterpreter, h]

theorem enroll_environment (p : Process) (o : Options) (k : EnvironmentId) :
    (p.enroll o).environment k = if k = p.environments.size
      then ⟨o, !p.host.lock.alive, none, none, 0, false⟩ else p.environment k := by
  refine Eq.trans ?_ (getD_push p.environments _ default k)
  cases h : p.host.lock.alive <;> simp [environment, enroll, beginInterpreter, h]

theorem enroll_started (p : Process) (o : Options) :
    (p.enroll o).environments.size = p.environments.size + 1 := by
  cases h : p.host.lock.alive <;> simp [enroll, beginInterpreter, h]

theorem enroll_active (p : Process) (o : Options) : (p.enroll o).active = true := rfl

theorem enroll_alive (p : Process) (o : Options) : (p.enroll o).host.lock.alive = true := by
  cases h : p.host.lock.alive
  · simp [enroll, beginInterpreter, h]
    rfl
  · simp [enroll, h]

/-- A new environment finds the accounts in order. It owns the interpreter only if there was none,
and then there is no driver either. -/
theorem Custody.enroll {p : Process} (hp : p.Custody) (vacant : ∀ e, p.Vacant e) (o : Options) :
    (p.enroll o).Custody := by
  have live (l : LoopId) : (p.enroll o).Live l ↔ p.Live l := by simp only [Live, enroll_loop]
  have drivers (e : EnvironmentId) : (p.enroll o).drivers e = p.drivers e := by
    ext l
    rw [mem_drivers, mem_drivers, live, enroll_loop]
  have fresh : (p.drivers p.environments.size).card = 0 := by
    rw [← hp.counted]
    simp [environment, Array.getD]
    rfl
  refine ⟨fun e => ?_, fun e he l hl => ?_, fun hi => ?_, fun e he => ?_⟩
  · rw [enroll_environment, drivers]
    split
    · next h => rw [h, fresh]
    · exact hp.counted e
  · rw [live] at hl
    rw [enroll_environment] at he
    split at he
    · have gone : p.host.lock.interpreter = none := by simpa [Lock.alive] using he
      exact absurd hl (hp.absent gone l)
    · rw [(vacant e).owns] at he
      cases he
  · have alive := p.enroll_alive o
    rw [Lock.alive, hi] at alive
    cases alive
  · rw [enroll_environment] at he
    split at he
    · cases he
    · rw [(vacant e).bindings] at he
      cases he

/-- All that finalization changes is the host. -/
theorem finalize_eq (p : Process) (t : ThreadId) :
    ∃ h : Host, p.finalize t = { p with host := h } ∧ h.lock.interpreter = none := by
  simp only [finalize]
  split
  · exact ⟨_, rfl, rfl⟩
  · exact ⟨_, rfl, Lock.resume_interpreter _ _ _⟩

theorem Custody.finalize {p : Process} (hp : p.Custody) (deserted : p.Deserted) (t : ThreadId) :
    (p.finalize t).Custody := by
  obtain ⟨h, hf, -⟩ := p.finalize_eq t
  rw [hf]
  refine ⟨hp.counted, hp.owned, fun _ => deserted.2, fun e he => ?_⟩
  rw [show (({ p with host := h } : Process).environment e) = p.environment e from rfl,
    deserted.1 e] at he
  cases he

end Process

/-! ## Activities -/

namespace Activity

variable {α : Type}

/-- Whether an activity leaves those in charge, and the accounts in order. -/
def Orderly (x : Activity α) : Prop := ∀ p : Process, p.Orderly (x p).2

theorem Turning.orderly {x : Activity α} (h : Turning x) : Orderly x := fun p => .of_turns (h p)

theorem Idle.orderly {x : Activity α} (h : Idle x) : Orderly x := h.turning.orderly

theorem prepare_orderly (t : ThreadId) (l : LoopId) (awaitable : Handle)
    (token : Cancellation.Token) : Orderly (prepare t l awaitable token) := by
  intro p
  rcases prepare_cases t l awaitable token p with ⟨e, q, hp, hq⟩ | ⟨c, q, hq, hp⟩
  · rw [hp]
    exact .of_steady (.of_idles hq)
  · rw [hp]
    exact (Process.Orderly.of_steady (.of_idles hq)).trans
      (.of_steady (.of_loops rfl rfl rfl fun _ => rfl))

theorem push_orderly (t : ThreadId) (l : LoopId) (r : Request) : Orderly (push t l r) := by
  intro p
  rcases push_cases t l r p with ⟨hp, -⟩ | ⟨w, q, q', hp, -, hq, hq'⟩
  · rw [hp]
    exact .refl p
  · rw [hp]
    exact .of_steady (.trans (.of_idles hq) (.trans (.queue q l r) (.of_idles hq')))

theorem discard_orderly (t : ThreadId) (r : Request) (e : Error) : Orderly (discard t r e) :=
  fun p => (Process.Orderly.of_steady (.answer p r e)).trans
    (.of_steady (.of_idles (tell_idle t r.drop _)))

end Activity

/-! ## The stage -/

/-- Whether a chore is a step in the life of an environment. -/
def Chore.isDuty : Chore → Bool
  | resolve _ | settleClose _ _ _ | finishClose _ => true
  | _ => false

/-- The steps in the life of an environment that are still to be taken. -/
def duties (chores : Chores) : List Chore := (chores.map Prod.snd).filter Chore.isDuty

theorem duties_append (a b : Chores) : duties (a ++ b) = duties a ++ duties b := by
  simp [duties]

theorem duties_of_errands {chores : Chores} (h : ∀ c ∈ chores, c.2.Errand) :
    duties chores = [] := by
  refine List.filter_eq_nil_iff.mpr fun c hc => ?_
  obtain ⟨tc, htc, rfl⟩ := List.mem_map.mp hc
  have he := h tc htc
  revert he
  cases tc.2 <;> simp [Chore.Errand, Chore.isDuty]

/-- A chore that is taken up is gone from the duties. -/
theorem duties_eraseIdx {chores : Chores} {n : Nat} {t : ThreadId} {c : Chore}
    (h : chores[n]? = some (t, c)) : ∃ a b, duties chores = a ++ [c].filter Chore.isDuty ++ b ∧
      duties (chores.eraseIdx n) = a ++ b := by
  obtain ⟨hn, hx⟩ := List.getElem?_eq_some_iff.mp h
  refine ⟨duties (chores.take n), duties (chores.drop (n + 1)), ?_, ?_⟩
  · have hc : duties [(t, c)] = [c].filter Chore.isDuty := rfl
    rw [← hc, ← duties_append, ← duties_append, ← hx, List.append_assoc]
    simp
  · rw [← duties_append, List.eraseIdx_eq_take_drop_succ]

theorem duties_eraseIdx_of_not {chores : Chores} {n : Nat} {t : ThreadId} {c : Chore}
    (h : chores[n]? = some (t, c)) (hc : c.isDuty = false) :
    duties (chores.eraseIdx n) = duties chores := by
  obtain ⟨a, b, hab, he⟩ := duties_eraseIdx h
  rw [hab, he]
  simp [hc]

theorem duties_eraseIdx_of_duty {chores : Chores} {n : Nat} {t : ThreadId} {c d : Chore}
    (h : chores[n]? = some (t, c)) (hc : c.isDuty = true) (hd : duties chores = [d]) :
    d = c ∧ duties (chores.eraseIdx n) = [] := by
  obtain ⟨a, b, hab, he⟩ := duties_eraseIdx h
  rw [hd] at hab
  rw [he]
  cases a with
  | nil =>
    simp only [List.nil_append, List.filter_cons, hc, if_true, List.filter_nil, List.cons_append,
      List.cons.injEq] at hab
    exact ⟨hab.1, by simp [← hab.2]⟩
  | cons x a => simp [hc] at hab

/-- Where the process is in the life of its environments, by the duties that there are. -/
inductive Stage (p : Process) : List Chore → Prop where
  /-- there is no environment -/
  | idle (active : p.active = false) (vacant : ∀ e, p.Vacant e) : Stage p []
  | starting (e : EnvironmentId) (active : p.active = true)
      (alive : p.host.lock.interpreter.isSome = true) (known : e < p.environments.size)
      (opened : (p.environment e).closed = false) (unbound : (p.environment e).bindings = none)
      (others : ∀ k, k ≠ e → p.Vacant k) : Stage p [.resolve e]
  | serving (e : EnvironmentId) (active : p.active = true) (known : e < p.environments.size)
      (opened : (p.environment e).closed = false) (others : ∀ k, k ≠ e → p.Vacant k) : Stage p []
  | closing (e : EnvironmentId) (loop : Option LoopId) (waited : Bool) (active : p.active = true)
      (known : e < p.environments.size) (closed : (p.environment e).closed = true)
      (others : ∀ k, k ≠ e → p.Vacant k) : Stage p [.settleClose e loop waited]
  | finishing (finalizes : Bool) (active : p.active = true) (vacant : ∀ e, p.Vacant e)
      (deserted : finalizes = true → p.Deserted) : Stage p [.finishClose finalizes]

theorem Stage.orderly {p q : Process} {duties : List Chore} (h : Stage p duties)
    (pq : p.Orderly q) : Stage q duties := by
  have ho := pq.offices
  cases h with
  | idle active vacant =>
    exact .idle (ho.active.trans active) fun e => (vacant e).same ho
  | starting e active alive known opened unbound others =>
    exact .starting e (ho.active.trans active) (ho.interpreter ▸ alive) (ho.started ▸ known)
      ((ho.closed e).trans opened) ((ho.bindings e).trans unbound)
      fun k hk => (others k hk).same ho
  | serving e active known opened others =>
    exact .serving e (ho.active.trans active) (ho.started ▸ known) ((ho.closed e).trans opened)
      fun k hk => (others k hk).same ho
  | closing e loop waited active known closed others =>
    exact .closing e loop waited (ho.active.trans active) (ho.started ▸ known)
      ((ho.closed e).trans closed) fun k hk => (others k hk).same ho
  | finishing finalizes active vacant deserted =>
    exact .finishing finalizes (ho.active.trans active) (fun e => (vacant e).same ho)
      fun hf => pq.deserted (deserted hf)

/-! ## The interpreter -/

namespace Activity

variable {α β : Type}

/-- Whether an activity leaves an interpreter where there is one. -/
def Lasting (x : Activity α) : Prop :=
  ∀ p : Process, p.host.lock.alive = true → (x p).2.host.lock.alive = true

theorem Orderly.lasting {x : Activity α} (h : Orderly x) : Lasting x := by
  intro p hp
  rw [Lock.alive, (h p).offices.interpreter]
  exact hp

theorem Turning.lasting {x : Activity α} (h : Turning x) : Lasting x := h.orderly.lasting

theorem Idle.lasting {x : Activity α} (h : Idle x) : Lasting x := h.turning.lasting

namespace Lasting

theorem pure (a : α) : Lasting (Pure.pure a) := fun _ hp => hp

theorem bind {x : Activity α} {f : α → Activity β} (hx : Lasting x) (hf : ∀ a, Lasting (f a)) :
    Lasting (x >>= f) :=
  fun p hp => hf _ _ (hx p hp)

theorem get_bind {f : Process → Activity β} (hf : ∀ p, Lasting (f p)) : Lasting (get >>= f) :=
  fun p hp => hf p p hp

end Lasting

theorem modifyEnvironment_lasting (e : EnvironmentId) (f : Environment → Environment) :
    Lasting (modifyEnvironment e f) := fun _ hp => hp

theorem closing_lasting (t : ThreadId) (e : EnvironmentId) : Lasting (closing t e) := by
  have marked : Lasting (markClosed e) := by
    refine .get_bind fun p => ?_
    dsimp only
    split
    · exact .pure none
    · exact .bind (modifyEnvironment_lasting e _) fun _ => .pure _
  refine .bind marked fun found => ?_
  rcases found with _ | _ | l
  · exact .pure _
  · exact .pure _
  · refine .bind (markDisposed_turning l).lasting fun disposed => ?_
    cases disposed <;> exact .pure _

theorem beginStart_lasting (o : Options) : Lasting (beginStart o) := by
  intro p hp
  rw [beginStart_eq]
  split
  · exact hp
  · exact p.enroll_alive o

theorem resolve_lasting (t : ThreadId) (e : EnvironmentId) : Lasting (resolve t e) := by
  refine .get_bind fun p => .bind (ask_idle t _).lasting fun r => ?_
  cases r with
  | ok b => exact .bind (modifyEnvironment_lasting e _) fun _ => .pure _
  | error _ => exact .pure _

theorem dropBindings_lasting (t : ThreadId) (e : EnvironmentId) : Lasting (dropBindings t e) := by
  refine .get_bind fun p => ?_
  split
  · exact .pure ()
  · exact .bind (modifyEnvironment_lasting e _) fun _ => (tell_idle t _).lasting

theorem settleClose_lasting (t : ThreadId) (e : EnvironmentId) (loop : Option LoopId)
    (waited : Bool) : Lasting (settleClose t e loop waited) := by
  refine .bind (endDefault_turning t loop waited).lasting fun disposed => ?_
  refine .bind (releaseDefault_turning t loop).lasting fun _ => ?_
  refine .bind (dropBindings_lasting t e) fun _ => .get_bind fun p => ?_
  exact .bind (modifyEnvironment_lasting e _) fun _ => (decideClose_idle _ disposed).lasting

end Activity

theorem Action.IsRoutine.lasting {a : Action} (h : a.IsRoutine) : Lasting a.run :=
  (Action.routine h).1.lasting

theorem Chore.Errand.lasting (t : ThreadId) {c : Chore} (h : c.Errand) : Lasting (c.run t) :=
  (Chore.routine t h).1.lasting

/-- No action takes the interpreter away. -/
theorem Action.lasting (a : Action) : Lasting a.run := by
  cases a with
  | submit t l awaitable token =>
    refine .bind (prepare_orderly t l awaitable token).lasting fun prepared => ?_
    cases prepared <;> exact .pure _
  | start t o =>
    refine .bind (beginStart_lasting o) fun started => ?_
    cases started <;> exact .pure _
  | close t e =>
    refine .get_bind fun p => ?_
    split
    · exact closing_lasting t e
    · exact .pure _
  | proceed n => exact .pure _
  | _ => exact Action.IsRoutine.lasting trivial

/-- Of the chores, only the decided finalization takes the interpreter away. -/
theorem Chore.lasting (t : ThreadId) {c : Chore} (h : c ≠ .finishClose true) :
    Lasting (c.run t) := by
  cases c with
  | enqueue l r =>
    refine .bind (push_orderly t l r).lasting fun pushed => ?_
    rcases pushed with _ | _ | w
    · exact .bind (discard_orderly t r _).lasting fun _ => .pure _
    · exact .pure _
    · exact .pure _
  | wake n => exact Chore.Errand.lasting t trivial
  | endDispose l dropped => exact Chore.Errand.lasting t trivial
  | resolve e =>
    refine .bind (resolve_lasting t e) fun result => ?_
    cases result with
    | ok _ => exact .pure _
    | error _ => exact closing_lasting t e
  | settleClose e loop waited =>
    exact .bind (settleClose_lasting t e loop waited) fun _ => .pure _
  | finishClose finalizes =>
    cases finalizes with
    | true => exact absurd rfl h
    | false => exact fun _ hp => hp

/-! ## From stage to stage -/

namespace Activity

theorem markClosed_eq (e : EnvironmentId) (p : Process) : markClosed e p =
    if (p.environment e).closed then (none, p)
    else (some (p.environment e).defaultLoop,
      p.changeEnvironment e fun x => { x with closed := true, defaultLoop := none }) := by
  simp only [markClosed, run_get_bind]
  split <;> rfl

theorem closing_of_closed (t : ThreadId) {e : EnvironmentId} {p : Process}
    (h : (p.environment e).closed = true) : closing t e p = ([], p) := by
  simp only [closing, run_bind, markClosed_eq, h, if_true, run_pure]

/-- An environment that begins to be closed is waited for once. -/
theorem closing_stage (t : ThreadId) {p : Process} {e : EnvironmentId} (custody : p.Custody)
    (active : p.active = true) (known : e < p.environments.size)
    (opened : (p.environment e).closed = false) (others : ∀ k, k ≠ e → p.Vacant k) :
    (closing t e p).2.Custody ∧ Stage (closing t e p).2 (duties (closing t e p).1) := by
  let q := p.changeEnvironment e fun x => { x with closed := true, defaultLoop := none }
  have hq : q.Custody := custody.resign e (fun _ => rfl) (fun _ => id) (fun _ => id)
  have stage (loop : Option LoopId) (waited : Bool) : Stage q [.settleClose e loop waited] := by
    refine .closing e loop waited active ?_ ?_ fun k hk => (others k hk).other hk _
    · exact known.trans_eq Array.size_modify.symm
    · rw [Process.environment_self known]
  have marked : markClosed e p = (some (p.environment e).defaultLoop, q) := by
    rw [markClosed_eq, if_neg (opened ▸ Bool.false_ne_true)]
  simp only [closing]
  rw [run_bind, marked]
  cases (p.environment e).defaultLoop with
  | none => exact ⟨hq, stage none false⟩
  | some l =>
    dsimp only
    rw [run_bind]
    generalize hm : markDisposed l q = m
    have disposed : q.Orderly m.2 := hm ▸ (markDisposed_turning l).orderly q
    obtain ⟨waited, r⟩ := m
    cases waited with
    | true => exact ⟨disposed.custody hq, (stage (some l) true).orderly disposed⟩
    | false => exact ⟨disposed.custody hq, (stage (some l) false).orderly disposed⟩

/-- An environment that has resolved what it needs serves; one that has not is closed. -/
theorem resolve_stage (t : ThreadId) {p : Process} {e : EnvironmentId} (custody : p.Custody)
    (stage : Stage p [.resolve e]) : ((Chore.resolve e).run t p).2.Custody ∧
      Stage ((Chore.resolve e).run t p).2 (duties ((Chore.resolve e).run t p).1) := by
  cases stage with
  | starting _ active alive known opened unbound others =>
    simp only [Chore.run, Activity.resolve]
    rw [run_bind, run_get_bind, run_bind]
    generalize hb : ask t (resolveBindings (p.environment e).options) p = b
    have pb : p.Orderly b.2 := .of_steady (.of_idles (hb ▸ ask_idle t _ p))
    have others' (k : EnvironmentId) (hk : k ≠ e) : b.2.Vacant k := (others k hk).same pb.offices
    have known' : e < b.2.environments.size := pb.offices.started ▸ known
    have opened' : (b.2.environment e).closed = false := (pb.offices.closed e).trans opened
    have active' : b.2.active = true := pb.offices.active.trans active
    obtain ⟨error | bindings, b⟩ := b
    · exact closing_stage t (pb.custody custody) active' known' opened' others'
    · have alive' : b.host.lock.interpreter.isSome = true := pb.offices.interpreter ▸ alive
      refine ⟨(pb.custody custody).bind bindings alive' others', ?_⟩
      refine .serving e active' ?_ ?_ fun k hk => (others' k hk).other hk _
      · show e < (b.environments.modify e _).size
        rw [Array.size_modify]
        exact known'
      · show ((b.changeEnvironment e _).environment e).closed = false
        rw [Process.environment_self known']
        exact opened'

/-- What an environment that lets go of everything leaves: at most its ownership of the
interpreter, and the right count of its drivers. -/
structure Released (p : Process) (e : EnvironmentId) : Prop where
  custody : p.Custody
  active : p.active = true
  known : e < p.environments.size
  unbound : ∀ k, (p.environment k).bindings = none
  others : ∀ k, k ≠ e → (p.environment k).owns = false

theorem Released.orderly {p q : Process} {e : EnvironmentId} (h : Released p e)
    (pq : p.Orderly q) : Released q e where
  custody := pq.custody h.custody
  active := pq.offices.active.trans h.active
  known := pq.offices.started ▸ h.known
  unbound k := (pq.offices.bindings k).trans (h.unbound k)
  others k hk := (pq.offices.owns k).trans (h.others k hk)

theorem dropBindings_released (t : ThreadId) {e : EnvironmentId} {p : Process}
    (custody : p.Custody) (active : p.active = true) (known : e < p.environments.size)
    (others : ∀ k, k ≠ e → p.Vacant k) : Released (dropBindings t e p).2 e := by
  cases hb : (p.environment e).bindings with
  | none =>
    simp only [dropBindings, run_get_bind, hb]
    refine ⟨custody, active, known, fun k => ?_, fun k hk => (others k hk).owns⟩
    by_cases hk : k = e
    · rw [hk]
      exact hb
    · exact (others k hk).bindings
  | some b =>
    simp only [dropBindings, run_get_bind, hb]
    let q := p.changeEnvironment e fun x => { x with bindings := none }
    have hq : Released q e := by
      refine ⟨custody.resign e (fun _ => rfl) (fun _ => id) (fun _ h => ?_), active,
        known.trans_eq Array.size_modify.symm, fun k => ?_,
        fun k hk => ((others k hk).other hk _).owns⟩
      · cases h
      · by_cases hk : k = e
        · rw [hk, Process.environment_self known]
        · exact ((others k hk).other hk _).bindings
    exact hq.orderly ((tell_idle t _).orderly q)

/-- Where the owner of the interpreter counts no driver, there is none. -/
theorem Released.deserted {p : Process} {e : EnvironmentId} (h : Released p e)
    (owns : (p.environment e).owns = true) (leases : (p.environment e).leases = 0) :
    p.Deserted := by
  refine ⟨h.unbound, fun l hl => ?_⟩
  have mine : l ∈ p.drivers e := Process.mem_drivers.mpr ⟨h.custody.owned e owns l hl, hl⟩
  rw [h.custody.counted, Finset.card_eq_zero] at leases
  rw [leases] at mine
  exact absurd mine (Finset.notMem_empty l)

theorem decideClose_finalizes {x : Environment} {disposed : Except Error Unit} {p : Process}
    (h : (decideClose x disposed p).1.2 = true) : x.owns = true ∧ x.leases = 0 := by
  simp only [decideClose] at h
  split at h
  · cases h
  · next hf =>
    split at h
    · next hl =>
      refine ⟨?_, hl⟩
      simp only [Bool.or_eq_true, Bool.not_eq_true', not_or, Bool.not_eq_false] at hf
      exact hf.1
    · cases disposed <;> cases h

/-- An environment that is settled has no part in the interpreter any more, and decides to finalize
it only if no driver is left. -/
theorem settleClose_stage (t : ThreadId) {p : Process} {e : EnvironmentId}
    {loop : Option LoopId} {waited : Bool} (custody : p.Custody)
    (stage : Stage p [.settleClose e loop waited]) :
    ((Chore.settleClose e loop waited).run t p).2.Custody ∧
      Stage ((Chore.settleClose e loop waited).run t p).2
        (duties ((Chore.settleClose e loop waited).run t p).1) := by
  cases stage with
  | closing _ _ _ active known closed others =>
    simp only [Chore.run, settleClose]
    rw [run_bind, run_bind, run_bind, run_bind, run_get_bind, run_bind]
    have pa := (endDefault_turning t loop waited).orderly p
    generalize endDefault t loop waited p = a at pa ⊢
    have pb := pa.trans ((releaseDefault_turning t loop).orderly a.2)
    generalize (releaseDefault t loop a.2).2 = b at pb ⊢
    have released : Released (dropBindings t e b).2 e :=
      dropBindings_released t (pb.custody custody) (pb.offices.active.trans active)
        (pb.offices.started ▸ known) fun k hk => (others k hk).same pb.offices
    generalize (dropBindings t e b).2 = c at released ⊢
    let d := c.changeEnvironment e fun x => { x with owns := false }
    have hd : d.Custody :=
      released.custody.resign e (fun _ => rfl) (fun _ h => by cases h) fun _ => id
    have vacant (k : EnvironmentId) : d.Vacant k := by
      by_cases hk : k = e
      · refine ⟨?_, ?_⟩ <;> rw [hk, Process.environment_self released.known]
        exact released.unbound e
      · exact Process.Vacant.other ⟨released.others k hk, released.unbound k⟩ hk _
    have decided := (decideClose_idle (c.environment e) a.1).orderly d
    refine ⟨decided.custody hd, .finishing _ (decided.offices.active.trans released.active)
      (fun k => (vacant k).same decided.offices) fun hf => decided.deserted ?_⟩
    obtain ⟨owns, leases⟩ := decideClose_finalizes hf
    exact ⟨fun k => (vacant k).bindings, (released.deserted owns leases).2⟩

/-- After the last part of closing an environment there is none. -/
theorem finishClose_stage (t : ThreadId) {p : Process} {finalizes : Bool} (custody : p.Custody)
    (stage : Stage p [.finishClose finalizes]) :
    ((Chore.finishClose finalizes).run t p).2.Custody ∧
      Stage ((Chore.finishClose finalizes).run t p).2
        (duties ((Chore.finishClose finalizes).run t p).1) := by
  cases stage with
  | finishing _ active vacant deserted =>
    -- nothing but the host has changed, and the accounts do not look at what is active
    cases finalizes with
    | false =>
      exact ⟨⟨custody.counted, custody.owned, custody.absent, custody.tenant⟩,
        .idle rfl fun e => ⟨(vacant e).owns, (vacant e).bindings⟩⟩
    | true =>
      obtain ⟨h, he, -⟩ := p.finalize_eq t
      have hf : Process.Custody { p with host := h } := he ▸ custody.finalize (deserted rfl) t
      have hr : (Chore.finishClose true).run t p = ([], { p with host := h, active := false }) := by
        show ([], { p.finalize t with active := false }) = _
        rw [he]
      rw [hr]
      exact ⟨⟨hf.counted, hf.owned, hf.absent, hf.tenant⟩,
        .idle rfl fun e => ⟨(vacant e).owns, (vacant e).bindings⟩⟩

end Activity

namespace System

/-- The accounts are in order, and the duties of the threads belong to the stage. -/
structure Ordered (s : System) : Prop where
  custody : s.process.Custody
  stage : Stage s.process (duties s.chores)

/-- Whether a step leaves those in charge, and the duties of the threads as they are. -/
structure Uneventful (s next : System) : Prop where
  orderly : s.process.Orderly next.process
  duties : duties next.chores = duties s.chores

theorem Ordered.uneventful {s next : System} (h : s.Ordered) (step : s.Uneventful next) :
    next.Ordered :=
  ⟨step.orderly.custody h.custody, step.duties ▸ h.stage.orderly step.orderly⟩

/-- An activity that leaves those in charge, and no duty behind. -/
theorem uneventful_after {s : System} {x : Activity Chores}
    (hx : s.process.Orderly (x s.process).2) (hd : duties (x s.process).1 = []) {chores : Chores}
    (hc : duties chores = duties s.chores) : s.Uneventful (after chores x s.process) := by
  refine ⟨hx, ?_⟩
  rw [after, duties_append, hd, List.append_nil, hc]

theorem uneventful_routine {s : System} {x : Activity Chores} (hx : Routine x)
    {chores : Chores} (hc : duties chores = duties s.chores) :
    s.Uneventful (after chores x s.process) :=
  uneventful_after (hx.1.orderly _) (duties_of_errands (hx.2 _)) hc

theorem uneventful_begin {s : System} {a : Action} (ha : a.IsRoutine) :
    s.Uneventful (s.step a) := by
  rw [s.step_of_routine ha]
  exact uneventful_routine (Action.routine ha) rfl

theorem uneventful_submit {s : System} (t : ThreadId) (l : LoopId) (awaitable : Handle)
    (token : Cancellation.Token) : s.Uneventful (s.step (.submit t l awaitable token)) := by
  have hp := prepare_orderly t l awaitable token s.process
  refine uneventful_after (x := Action.run (.submit t l awaitable token)) ?_ ?_ rfl <;>
    simp only [Action.run] <;> rw [run_bind] <;> revert hp <;>
    generalize prepare t l awaitable token s.process = b <;> obtain ⟨_ | _, b⟩ := b <;> intro hp
  · exact hp
  · exact hp
  · rfl
  · rfl

theorem step_proceed {s : System} {n : Nat} {t : ThreadId} {c : Chore}
    (hn : s.chores[n]? = some (t, c)) :
    s.step (.proceed n) = after (s.chores.eraseIdx n) (c.run t) s.process := by
  simp only [System.step, hn]

/-- A thread queues a request, or gives it up. -/
theorem uneventful_enqueue {s : System} {n : Nat} {t : ThreadId} {l : LoopId} {r : Request}
    (hn : s.chores[n]? = some (t, .enqueue l r)) : s.Uneventful (s.step (.proceed n)) := by
  rw [step_proceed hn]
  have hp := push_orderly t l r s.process
  refine uneventful_after ?_ ?_ (duties_eraseIdx_of_not hn rfl) <;>
    simp only [Chore.run] <;> rw [run_bind] <;> revert hp <;>
    generalize push t l r s.process = b <;> obtain ⟨_ | _ | w, b⟩ := b <;> intro hp
  · exact hp.trans (discard_orderly t r _ b)
  · exact hp
  · exact hp
  · rfl
  · rfl
  · rfl

/-- A thread takes up a chore that is no duty. -/
theorem uneventful_proceed {s : System} {n : Nat} {t : ThreadId} {c : Chore}
    (hn : s.chores[n]? = some (t, c)) (hc : c.isDuty = false) :
    s.Uneventful (s.step (.proceed n)) := by
  have errand (he : c.Errand) : s.Uneventful (s.step (.proceed n)) := by
    rw [step_proceed hn]
    exact uneventful_routine (Chore.routine t he) (duties_eraseIdx_of_not hn hc)
  cases c with
  | enqueue l r => exact uneventful_enqueue hn
  | wake n => exact errand trivial
  | endDispose l dropped => exact errand trivial
  | _ => cases hc

theorem step_start_of_active {s : System} (h : s.process.active = true) (t : ThreadId)
    (o : Options) : s.step (.start t o) = s := by
  have hb := beginStart_eq o s.process
  rw [if_pos h] at hb
  simp only [step, after, Action.run, run_bind, hb, run_pure, List.append_nil]

theorem step_start_of_inactive {s : System} (h : s.process.active = false) (t : ThreadId)
    (o : Options) : s.step (.start t o) =
      ⟨s.process.enroll o, s.chores ++ [(t, .resolve s.process.environments.size)]⟩ := by
  have hb := beginStart_eq o s.process
  rw [if_neg (h ▸ Bool.false_ne_true)] at hb
  simp only [step, after, Action.run, run_bind, hb, run_pure]

/-- An environment is started, unless there is one. -/
theorem Ordered.start {s : System} (h : s.Ordered) (t : ThreadId) (o : Options) :
    (s.step (.start t o)).Ordered := by
  cases ha : s.process.active with
  | true => exact (step_start_of_active ha t o).symm ▸ h
  | false =>
    rw [step_start_of_inactive ha]
    obtain ⟨p, chores⟩ := s
    obtain ⟨custody, stage⟩ := h
    dsimp only at custody stage ha ⊢
    generalize hd : duties chores = d at stage
    cases stage with
    | idle active vacant =>
      refine ⟨custody.enroll vacant o, ?_⟩
      have alive : (p.enroll o).host.lock.interpreter.isSome = true := p.enroll_alive o
      have new : (p.enroll o).environment p.environments.size =
          ⟨o, !p.host.lock.alive, none, none, 0, false⟩ := by
        rw [Process.enroll_environment, if_pos rfl]
      show Stage _ (duties (chores ++ _))
      rw [duties_append, hd]
      refine .starting p.environments.size (Process.enroll_active p o) alive ?_ ?_ ?_ fun k hk => ?_
      · rw [Process.enroll_started]
        exact Nat.lt_succ_self _
      · rw [new]
      · rw [new]
      · constructor
        · rw [Process.enroll_environment, if_neg hk, (vacant k).owns]
        · rw [Process.enroll_environment, if_neg hk, (vacant k).bindings]
    | starting e active => rw [ha] at active; cases active
    | serving e active => rw [ha] at active; cases active
    | closing e loop waited active => rw [ha] at active; cases active
    | finishing f active => rw [ha] at active; cases active

theorem step_close_of_not_open {s : System} {e : EnvironmentId} (h : isOpen s.process e = false)
    (t : ThreadId) : s.step (.close t e) = s := by
  simp [step, after, Action.run, run_get_bind, h]

theorem step_close_of_open {s : System} {e : EnvironmentId} (h : isOpen s.process e = true)
    (t : ThreadId) : s.step (.close t e) = after s.chores (closing t e) s.process := by
  simp only [step, after, Action.run, run_get_bind, h, if_true]

/-- A thread that closes an environment once more has nothing to do. -/
theorem step_close_of_closed {s : System} {e : EnvironmentId}
    (h : (s.process.environment e).closed = true) (t : ThreadId) : s.step (.close t e) = s := by
  cases hb : isOpen s.process e with
  | false => exact step_close_of_not_open hb t
  | true => rw [step_close_of_open hb, after, closing_of_closed t h, List.append_nil]

/-- An environment begins to be closed, unless it has been closed before. -/
theorem Ordered.close {s : System} (h : s.Ordered) (t : ThreadId) (e : EnvironmentId) :
    (s.step (.close t e)).Ordered := by
  cases hb : isOpen s.process e with
  | false => exact (step_close_of_not_open hb t).symm ▸ h
  | true =>
    rw [step_close_of_open hb]
    obtain ⟨p, chores⟩ := s
    obtain ⟨custody, stage⟩ := h
    dsimp only at custody stage hb ⊢
    have bound (h : p.Vacant e) : False := by
      rw [isOpen, h.bindings] at hb
      cases hb
    have mine {k : EnvironmentId} (others : ∀ j, j ≠ k → p.Vacant j) : e = k :=
      Classical.byContradiction fun hk => bound (others e hk)
    generalize hd : duties chores = d at stage
    cases stage with
    | idle active vacant => exact (bound (vacant e)).elim
    | starting k active alive known opened unbound others =>
      rw [isOpen, mine others, unbound] at hb
      cases hb
    | serving k active known opened others =>
      obtain rfl := mine others
      obtain ⟨custody', stage'⟩ := closing_stage t custody active known opened others
      refine ⟨custody', ?_⟩
      rw [after, duties_append, hd, List.nil_append]
      exact stage'
    | closing k loop waited active known closed others =>
      obtain rfl := mine others
      rw [after, closing_of_closed t closed, List.append_nil]
      exact ⟨custody, hd ▸ .closing e loop waited active known closed others⟩
    | finishing f active vacant deserted => exact (bound (vacant e)).elim

/-- There is never more than one duty. -/
theorem Ordered.single {s : System} (h : s.Ordered) {n : Nat} {t : ThreadId} {c : Chore}
    (hn : s.chores[n]? = some (t, c)) (hc : c.isDuty = true) : ∃ d, duties s.chores = [d] := by
  obtain ⟨a, b, hab, -⟩ := duties_eraseIdx hn
  have stage := h.stage
  rw [hab] at stage ⊢
  simp only [hc, List.filter_cons, if_true, List.filter_nil] at stage ⊢
  generalize hl : a ++ [c] ++ b = l at stage ⊢
  cases stage with
  | idle => simp at hl
  | serving => simp at hl
  | _ => exact ⟨_, rfl⟩

/-- A duty that is taken up is the only one. -/
theorem Ordered.only {s : System} (h : s.Ordered) {n : Nat} {t : ThreadId} {c : Chore}
    (hn : s.chores[n]? = some (t, c)) (hc : c.isDuty = true) :
    duties s.chores = [c] ∧ duties (s.chores.eraseIdx n) = [] := by
  obtain ⟨d, hd⟩ := h.single hn hc
  obtain ⟨rfl, rest⟩ := duties_eraseIdx_of_duty hn hc hd
  exact ⟨hd, rest⟩

/-- A duty that is taken up leads to the next stage. -/
theorem Ordered.duty {s : System} (h : s.Ordered) {n : Nat} {t : ThreadId} {c : Chore}
    (hn : s.chores[n]? = some (t, c)) (hc : c.isDuty = true)
    (hx : s.process.Custody → Stage s.process [c] →
      (c.run t s.process).2.Custody ∧ Stage (c.run t s.process).2 (duties (c.run t s.process).1)) :
    (s.step (.proceed n)).Ordered := by
  obtain ⟨only, rest⟩ := h.only hn hc
  obtain ⟨custody, stage⟩ := hx h.custody (only ▸ h.stage)
  rw [step_proceed hn]
  refine ⟨custody, ?_⟩
  rw [after, duties_append, rest, List.nil_append]
  exact stage

/-- Whatever happens, the accounts stay in order. -/
theorem Ordered.step {s : System} (h : s.Ordered) (a : Action) : (s.step a).Ordered := by
  cases a with
  | submit t l awaitable token => exact h.uneventful (uneventful_submit t l awaitable token)
  | start t o => exact h.start t o
  | close t e => exact h.close t e
  | proceed n =>
    cases hn : s.chores[n]? with
    | none =>
      have hs : s.step (.proceed n) = s := by simp only [System.step, hn]
      rw [hs]
      exact h
    | some tc =>
      obtain ⟨t, c⟩ := tc
      cases c with
      | resolve e => exact h.duty hn rfl (resolve_stage t)
      | settleClose e loop waited => exact h.duty hn rfl (settleClose_stage t)
      | finishClose finalizes => exact h.duty hn rfl (finishClose_stage t)
      | _ => exact h.uneventful (uneventful_proceed hn rfl)
  | _ => exact h.uneventful (uneventful_begin trivial)

theorem Ordered.initial (attached : Bool) : (System.initial attached).Ordered := by
  have hl (l : LoopId) : (System.initial attached).process.loop l = default := by
    cases attached <;> rfl
  have he (e : EnvironmentId) : (System.initial attached).process.environment e = default := by
    cases attached <;> rfl
  have dead (l : LoopId) : ¬ (System.initial attached).process.Live l := by
    intro h
    rw [Process.Live, hl] at h
    exact h rfl
  refine ⟨⟨fun e => ?_, fun e _ l hl => absurd hl (dead l), fun _ => dead, fun e h => ?_⟩, ?_⟩
  · rw [he, Finset.card_eq_zero.mpr (Finset.eq_empty_of_forall_notMem fun l hl =>
      dead l (Process.mem_drivers.mp hl).2)]
    rfl
  · rw [he] at h
    cases h
  · refine .idle ?_ fun e => ⟨?_, ?_⟩
    · cases attached <;> rfl
    · rw [he]
      rfl
    · rw [he]
      rfl

theorem ordered_run (attached : Bool) (actions : List Action) : (run attached actions).Ordered := by
  refine List.foldlRecOn (motive := System.Ordered) actions step (Ordered.initial attached) ?_
  exact fun s h a _ => h.step a

/-- Whether an action finalizes the interpreter. -/
def Finalizes (s : System) : Action → Prop
  | .proceed n => ∃ t, s.chores[n]? = some (t, .finishClose true)
  | _ => False

/-- An action takes the interpreter away only by finalizing it. -/
theorem finalizes_iff (s : System) (a : Action) (alive : s.process.host.lock.alive = true) :
    s.Finalizes a ↔ (s.step a).process.host.lock.alive = false := by
  constructor
  · intro h
    cases a with
    | proceed n =>
      obtain ⟨t, hn⟩ := h
      obtain ⟨k, hk, gone⟩ := s.process.finalize_eq t
      have hs : (s.step (.proceed n)).process = { s.process.finalize t with active := false } := by
        simp only [step, hn]
        rfl
      rw [hs, hk, Lock.alive, gone]
      rfl
    | _ => exact h.elim
  · intro dead
    have lasting {x : Activity Chores} {chores : Chores} (hx : Lasting x)
        (h : (after chores x s.process).process.host.lock.alive = false) : False := by
      rw [after, hx _ alive] at h
      cases h
    cases a with
    | proceed n =>
      cases hn : s.chores[n]? with
      | none =>
        simp only [step, hn] at dead
        rw [alive] at dead
        cases dead
      | some tc =>
        obtain ⟨t, c⟩ := tc
        simp only [step, hn] at dead
        by_cases hc : c = .finishClose true
        · exact ⟨t, hc ▸ hn⟩
        · exact (lasting (Chore.lasting t hc) dead).elim
    | _ => exact (lasting (Action.lasting _) dead).elim

/-- The interpreter is never finalized under a running driver. Every environment counts exactly its
live drivers; where it owns the interpreter, these are all the drivers of the process that live,
those of earlier environments included. The interpreter goes away only by finalization, and whenever
it is finalized, or has been, no driver lives. -/
theorem finalization_after_last_driver (attached : Bool) (actions : List Action) (a : Action) :
    let s := run attached actions
    let p := s.process
    (∀ e, (p.environment e).leases = (p.drivers e).card) ∧
    (∀ e, (p.environment e).owns = true → ∀ l, p.Live l → l ∈ p.drivers e) ∧
    (p.host.lock.alive = true →
      (s.Finalizes a ↔ (s.step a).process.host.lock.alive = false)) ∧
    (s.Finalizes a → ∀ l, ¬ p.Live l) ∧
    (p.host.lock.alive = false → ∀ l, ¬ p.Live l) := by
  intro s p
  have ordered : s.Ordered := ordered_run attached actions
  refine ⟨ordered.custody.counted, fun e he l hl => ?_, s.finalizes_iff a, fun ha => ?_, fun h => ?_⟩
  · exact Process.mem_drivers.mpr ⟨ordered.custody.owned e he l hl, hl⟩
  · cases a with
    | proceed n =>
      obtain ⟨t, hn⟩ := ha
      have stage := ordered.stage
      obtain ⟨d, hd⟩ := ordered.single hn rfl
      obtain ⟨rfl, -⟩ := duties_eraseIdx_of_duty hn rfl hd
      rw [hd] at stage
      cases stage with
      | finishing _ active vacant deserted => exact (deserted rfl).2
    | _ => exact ha.elim
  · exact ordered.custody.absent (by simpa [Lock.alive] using h)

end System

end EmbeddedPython
