import EmbeddedPython.Proofs.Environment.Milestone
import EmbeddedPython.Proofs.Environment.Starting

/-
  The lifecycle of the interpreter

  `Tenure.Describes` ties what has happened to the environments to the state
  of the process: the mark of the live environment, the interpreter, and what
  every environment has. Every step either leaves all of this alone or leads
  past one milestone, so that the lives of environments follow one another in
  every run.
-/

namespace EmbeddedPython

open Activity Bridge

/-! ## What environments keep -/

namespace Process

/-- The same environments are there, on the same terms. -/
structure SameTerms (p q : Process) : Prop where
  interpreter : q.host.lock.interpreter = p.host.lock.interpreter
  active : q.active = p.active
  started : q.environments.size = p.environments.size
  owns : ∀ e, (q.environment e).owns = (p.environment e).owns
  closed : ∀ e, (q.environment e).closed = (p.environment e).closed
  options : ∀ e, (q.environment e).options = (p.environment e).options

theorem SameOffices.terms {p q : Process} (h : SameOffices p q) : SameTerms p q :=
  ⟨h.interpreter, h.active, h.started, h.owns, h.closed, h.options⟩

namespace SameTerms

theorem refl (p : Process) : SameTerms p p := (SameOffices.refl p).terms

theorem trans {p q r : Process} (pq : SameTerms p q) (qr : SameTerms q r) : SameTerms p r where
  interpreter := qr.interpreter.trans pq.interpreter
  active := qr.active.trans pq.active
  started := qr.started.trans pq.started
  owns e := (qr.owns e).trans (pq.owns e)
  closed e := (qr.closed e).trans (pq.closed e)
  options e := (qr.options e).trans (pq.options e)

/-- The terms of an environment do not depend on what it has resolved. -/
theorem bindings (p : Process) (e : EnvironmentId) (b : Option Bindings) :
    SameTerms p (p.changeEnvironment e fun x => { x with bindings := b }) := by
  refine ⟨rfl, rfl, Array.size_modify, fun k => ?_, fun k => ?_, fun k => ?_⟩ <;>
    rw [environment_changeEnvironment] <;> split
  · next hk => rw [hk.1]
  · rfl
  · next hk => rw [hk.1]
  · rfl
  · next hk => rw [hk.1]
  · rfl

end SameTerms

/-- Marks an environment as closed. -/
def shut (p : Process) (e : EnvironmentId) : Process :=
  p.changeEnvironment e fun x => { x with closed := true, defaultLoop := none }

theorem SameTerms.shut {p q : Process} (h : SameTerms p q) (e : EnvironmentId) :
    SameTerms (p.shut e) (q.shut e) := by
  refine ⟨h.interpreter, h.active, ?_, fun k => ?_, fun k => ?_, fun k => ?_⟩
  · exact Array.size_modify.trans (h.started.trans Array.size_modify.symm)
  all_goals
    rw [Process.shut, Process.shut, environment_changeEnvironment, environment_changeEnvironment,
      h.started]
    split
  · exact h.owns e
  · exact h.owns k
  · rfl
  · exact h.closed k
  · exact h.options e
  · exact h.options k

end Process

namespace Activity

variable {p : Process} {t : ThreadId} {e : EnvironmentId}

theorem markClosed_of_open (opened : (p.environment e).closed = false) :
    markClosed e p = (some (p.environment e).defaultLoop, p.shut e) := by
  rw [markClosed_eq, if_neg (opened ▸ Bool.false_ne_true)]
  rfl

/-- An environment that is open is marked as closed, and is to be settled. -/
theorem closing_of_open (t : ThreadId) (opened : (p.environment e).closed = false) :
    (p.shut e).Orderly (closing t e p).2 ∧
      ∃ loop waited, duties (closing t e p).1 = [.settleClose e loop waited] := by
  simp only [closing]
  rw [run_bind, markClosed_of_open opened]
  cases (p.environment e).defaultLoop with
  | none => exact ⟨.refl _, none, false, rfl⟩
  | some l =>
    dsimp only
    rw [run_bind]
    have disposed := (markDisposed_turning l).orderly (p.shut e)
    generalize markDisposed l (p.shut e) = m at disposed ⊢
    obtain ⟨waited, q⟩ := m
    cases waited with
    | true => exact ⟨disposed, some l, true, rfl⟩
    | false => exact ⟨disposed, some l, false, rfl⟩

theorem beginClose_of_open (t : ThreadId) (opened : (p.environment e).closed = false) :
    ∃ loop waited q, beginClose t e p = (some (loop, waited), q) ∧ (p.shut e).Orderly q := by
  simp only [beginClose]
  rw [run_bind, markClosed_of_open opened]
  cases (p.environment e).defaultLoop with
  | none => exact ⟨none, false, _, rfl, .refl _⟩
  | some l =>
    have begun : Turning (beginDispose t l) := by
      refine .bind (markDisposed_turning l) fun marked => ?_
      cases marked with
      | true => exact .bind (enqueue_turning t l rfl) fun _ => .pure _
      | false => exact .pure _
    exact ⟨some l, _, _, rfl, begun.orderly _⟩

theorem resolve_terms (t : ThreadId) (e : EnvironmentId) (p : Process) :
    p.SameTerms (resolve t e p).2 := by
  simp only [resolve]
  rw [run_get_bind, run_bind]
  have asked := (ask_idle t (resolveBindings (p.environment e).options)).orderly p
  generalize ask t (resolveBindings (p.environment e).options) p = b at asked ⊢
  obtain ⟨_ | bindings, q⟩ := b
  · exact asked.offices.terms
  · exact asked.offices.terms.trans (.bindings q e _)

theorem dropBindings_terms (t : ThreadId) (e : EnvironmentId) (p : Process) :
    p.SameTerms (dropBindings t e p).2 := by
  cases hb : (p.environment e).bindings with
  | none =>
    simp only [dropBindings, run_get_bind, hb]
    exact .refl p
  | some b =>
    simp only [dropBindings, run_get_bind, hb]
    exact (Process.SameTerms.bindings p e none).trans ((tell_idle t _).orderly _).offices.terms

theorem decideClose_decision (x : Environment) (disposed : Except Error Unit) (p : Process) :
    (decideClose x disposed p).1.2 =
      (x.owns && x.options.finalizeOnShutdown && x.leases == 0) := by
  simp only [decideClose]
  split
  · next h => cases ho : x.owns <;> simp_all
  · next h =>
    split
    · next hl => simp_all
    · next hl =>
      have running : (x.leases == 0) = false := by simpa using hl
      rw [running, Bool.and_false]
      cases disposed <;> rfl

/-- An environment that is settled decides on what it counts after it has let go of everything. -/
theorem settleClose_eq (t : ThreadId) (e : EnvironmentId) (loop : Option LoopId) (waited : Bool)
    (p : Process) : ∃ q, p.SameTerms q ∧ settleClose t e loop waited p =
      decideClose (q.environment e) (endDefault t loop waited p).1
        (q.changeEnvironment e fun x => { x with owns := false }) := by
  have pa := ((endDefault_turning t loop waited).orderly p).offices.terms
  have pb := pa.trans ((releaseDefault_turning t loop).orderly _).offices.terms
  exact ⟨_, pb.trans (dropBindings_terms t e _), rfl⟩

/-- To decide changes nothing that the environments count. -/
theorem decideClose_leases (x : Environment) (disposed : Except Error Unit) (q : Process)
    (e : EnvironmentId) : ((decideClose x disposed
      (q.changeEnvironment e fun x => { x with owns := false })).2.environment e).leases =
        (q.environment e).leases := by
  have steady := Process.Steady.of_idles
    (decideClose_idle x disposed (q.changeEnvironment e fun x => { x with owns := false }))
  rw [steady.leases, Process.environment_changeEnvironment]
  split <;> rfl

/-- What an environment that is settled comes to: it has lost the interpreter, and nothing else has
changed that its terms say. It decides to finalize the interpreter if it has owned it, is to
finalize it and counts no driver. -/
theorem settleClose_terms (t : ThreadId) (e : EnvironmentId) (loop : Option LoopId) (waited : Bool)
    (p : Process) : ∃ q, p.SameTerms q ∧
      (q.changeEnvironment e fun x => { x with owns := false }).SameTerms
        (settleClose t e loop waited p).2 ∧
      (settleClose t e loop waited p).1.2 = ((p.environment e).owns &&
        (p.environment e).options.finalizeOnShutdown &&
        ((settleClose t e loop waited p).2.environment e).leases == 0) := by
  obtain ⟨q, pq, settled⟩ := settleClose_eq t e loop waited p
  have decided := decideClose_idle (q.environment e) (endDefault t loop waited p).1
    (q.changeEnvironment e fun x => { x with owns := false })
  refine ⟨q, pq, ?_, ?_⟩
  · rw [settled]
    exact (Process.Steady.of_idles decided).toSameOffices.terms
  · rw [settled, decideClose_decision, decideClose_leases, pq.owns, pq.options]

/-- The mark is cleared, and the interpreter is gone if that has been decided. -/
theorem finishClose_eq (t : ThreadId) (finalizes : Bool) (p : Process) :
    ∃ h : Host, finishClose t finalizes p = ((), { p with host := h, active := false }) ∧
      h.lock.alive = (p.host.lock.alive && !finalizes) := by
  cases finalizes with
  | false => exact ⟨p.host, rfl, (Bool.and_true _).symm⟩
  | true =>
    obtain ⟨h, hf, gone⟩ := p.finalize_eq t
    refine ⟨h, ?_, ?_⟩
    · show ((), { p.finalize t with active := false }) = _
      rw [hf]
    · rw [Lock.alive, gone, Bool.not_true, Bool.and_false]
      rfl

/-! ## Whole calls -/

theorem close_of_closed (t : ThreadId) (h : (p.environment e).closed = true) :
    close t e p = (.ok (), p) := by
  simp only [close, beginClose]
  rw [run_bind, run_bind, markClosed_eq, if_pos h]
  rfl

theorem dropEnvironment_of_closed (t : ThreadId) (h : (p.environment e).closed = true) :
    dropEnvironment t e p = ((), p) := by
  rw [dropEnvironment, run_bind, close_of_closed t h]
  rfl

theorem runDriver_turning (l : LoopId) (n : Nat) : Turning (runDriver l n) := by
  induction n with
  | zero => exact .pure ()
  | succ n ih =>
    refine .bind (step_turning l) fun moved => ?_
    cases moved with
    | true => exact ih
    | false => exact .pure ()

theorem runDrivers_turning (n : Nat) : Turning (runDrivers n) := by
  induction n with
  | zero => exact .pure ()
  | succ n ih =>
    have round (ls : List LoopId) (moved : Bool) : Turning (ls.foldlM (fun moved l => do
        let now ← step l
        runDriver l moveBound
        Pure.pure (moved || now)) moved) := by
      induction ls generalizing moved with
      | nil => exact .pure moved
      | cons l ls ih =>
        rw [List.foldlM_cons]
        refine .bind (.bind (step_turning l) fun now => ?_) ih
        exact .bind (runDriver_turning l moveBound) fun _ => .pure _
    refine .get_bind fun p => .bind (round _ _) fun moved => ?_
    cases moved with
    | true => exact ih
    | false => exact .pure ()

/-- An environment that is open and has been made last. -/
structure Serving (p : Process) (e : EnvironmentId) : Prop where
  custody : p.Custody
  active : p.active = true
  alive : p.host.lock.alive = true
  known : e < p.environments.size
  opened : (p.environment e).closed = false
  others : ∀ k, k ≠ e → p.Vacant k

/-- What comes before an environment is settled: its default loop is told to stop, and the drivers
make their moves if it is waited for. -/
def awaitClose (t : ThreadId) (e : EnvironmentId) : Activity (Option (Option LoopId × Bool)) := do
  let begun ← beginClose t e
  match begun with
  | some (_, true) => runDrivers moveBound
  | _ => pure ()
  pure begun

/-- To close the environment that is served is to settle it after the wait for its default loop, and
to finish what it has decided. -/
theorem close_settles (t : ThreadId) (h : Serving p e) : ∃ loop waited r,
    awaitClose t e p = (some (loop, waited), r) ∧ close t e p = endClose t e loop waited r ∧
    (p.shut e).Orderly r ∧ r.Custody ∧ Stage r [.settleClose e loop waited] := by
  obtain ⟨loop, waited, q, begun, pq⟩ := beginClose_of_open t h.opened
  let r := ((if waited then runDrivers moveBound else pure () : Activity Unit) q).2
  have qr : q.Orderly r := by
    cases waited with
    | true => exact (runDrivers_turning moveBound).orderly q
    | false => exact .refl q
  have awaited : awaitClose t e p = (some (loop, waited), r) := by
    rw [awaitClose, run_bind, begun]
    cases waited <;> rfl
  have closed : close t e p = endClose t e loop waited r := by
    rw [close, run_bind, begun]
    cases waited <;> rfl
  have shut : (p.shut e).Custody ∧ Stage (p.shut e) [.settleClose e loop waited] := by
    refine ⟨h.custody.resign e (fun _ => rfl) (fun _ => id) fun _ => id, ?_⟩
    refine .closing e loop waited h.active ?_ ?_ fun k hk => (h.others k hk).other hk _
    · exact h.known.trans_eq Array.size_modify.symm
    · rw [Process.shut, Process.environment_self h.known]
  have pr := pq.trans qr
  exact ⟨loop, waited, r, awaited, closed, pr, pr.custody shut.1, shut.2.orderly pr⟩

/-- What an environment that is closed leaves: the mark is cleared, and the interpreter is gone if
the environment has owned it, is to finalize it and has no driver any more. -/
theorem close_ends (t : ThreadId) (h : Serving p e) : (close t e p).2.active = false ∧
    (close t e p).2.host.lock.alive = Tenure.outlasts (p.environment e).options
      (!(p.environment e).owns) ((close t e p).2.drivers e).card := by
  obtain ⟨loop, waited, r, -, closed, pr, custody, stage⟩ := close_settles t h
  obtain ⟨custody, -⟩ := settleClose_stage t custody stage
  obtain ⟨i, ri, ij, decided⟩ := settleClose_terms t e loop waited r
  rw [show ((Chore.settleClose e loop waited).run t r).2 = (settleClose t e loop waited r).2 from rfl]
    at custody
  have ended : (close t e p).2 = (finishClose t (settleClose t e loop waited r).1.2
      (settleClose t e loop waited r).2).2 := by
    rw [closed]
    rfl
  generalize settleClose t e loop waited r = b at custody ij decided ended
  obtain ⟨⟨result, finalizes⟩, j⟩ := b
  dsimp only at custody ij decided ended
  obtain ⟨k, finished, alive⟩ := finishClose_eq t finalizes j
  rw [ended, finished]
  refine ⟨rfl, alive.trans ?_⟩
  have kept : j.host.lock.alive = true := by
    rw [Lock.alive, ij.interpreter]
    exact (congrArg Option.isSome (ri.interpreter.trans pr.offices.interpreter)).trans h.alive
  have owned : (r.environment e).owns = (p.environment e).owns := by
    rw [pr.offices.owns, Process.shut, Process.environment_self h.known]
  have options : (r.environment e).options = (p.environment e).options := by
    rw [pr.offices.options, Process.shut, Process.environment_self h.known]
  have drivers : (Process.drivers { j with host := k, active := false } e).card =
      (j.environment e).leases := (custody.counted e).symm
  rw [kept, decided, owned, options, drivers, Tenure.outlasts]
  cases (p.environment e).owns <;> cases (p.environment e).options.finalizeOnShutdown <;> simp [bne]

theorem dropEnvironment_ends (t : ThreadId) (h : Serving p e) :
    (dropEnvironment t e p).2.active = false ∧
    (dropEnvironment t e p).2.host.lock.alive = Tenure.outlasts (p.environment e).options
      (!(p.environment e).owns) ((dropEnvironment t e p).2.drivers e).card := by
  have ends := close_ends t h
  rw [dropEnvironment, run_bind]
  generalize close t e p = b at ends ⊢
  -- that the closing has failed is only reported
  obtain ⟨_ | _, q⟩ := b <;> exact ends

theorem Serving.orderly {q : Process} (h : Serving p e) (pq : p.Orderly q) : Serving q e where
  custody := pq.custody h.custody
  active := pq.offices.active.trans h.active
  alive := (congrArg Option.isSome pq.offices.interpreter).trans h.alive
  known := pq.offices.started ▸ h.known
  opened := (pq.offices.closed e).trans h.opened
  others k hk := (h.others k hk).same pq.offices

theorem resolve_orderly {error : Error} (h : (resolve t e p).1 = .error error) :
    p.Orderly (resolve t e p).2 := by
  simp only [resolve] at h ⊢
  rw [run_get_bind, run_bind] at h ⊢
  have asked := (ask_idle t (resolveBindings (p.environment e).options)).orderly p
  generalize ask t (resolveBindings (p.environment e).options) p = b at h asked ⊢
  obtain ⟨_ | bindings, q⟩ := b
  · exact asked
  · cases h

/-- A new environment is the live one. -/
theorem serving_enroll (custody : p.Custody) (vacant : ∀ k, p.Vacant k) (o : Options) :
    Serving (p.enroll o) p.environments.size where
  custody := custody.enroll vacant o
  active := p.enroll_active o
  alive := p.enroll_alive o
  known := by rw [p.enroll_started]; exact Nat.lt_succ_self _
  opened := by rw [p.enroll_environment, if_pos rfl]
  others k hk := by
    constructor
    · rw [p.enroll_environment, if_neg hk, (vacant k).owns]
    · rw [p.enroll_environment, if_neg hk, (vacant k).bindings]

/-- What a start comes to where no environment is live. -/
theorem start_ends (t : ThreadId) (o : Options) (custody : p.Custody) (active : p.active = false)
    (vacant : ∀ k, p.Vacant k) :
    (∀ e, (start t o p).1 = .ok e → e = p.environments.size ∧ (start t o p).2.active = true ∧
      ((start t o p).2.environment e).owns = !p.host.lock.alive) ∧
    (∀ error, (start t o p).1 = .error error →
      (start t o p).2.active = false ∧ (start t o p).2.host.lock.alive =
        Tenure.outlasts o p.host.lock.alive
          ((start t o p).2.drivers p.environments.size).card) := by
  have serving := serving_enroll custody vacant o
  have new : (p.enroll o).environment p.environments.size =
      ⟨o, !p.host.lock.alive, none, none, 0, false⟩ := by
    rw [p.enroll_environment, if_pos rfl]
  have terms := resolve_terms t p.environments.size (p.enroll o)
  have orderly (error : Error) : (resolve t p.environments.size (p.enroll o)).1 = .error error →
      (p.enroll o).Orderly (resolve t p.environments.size (p.enroll o)).2 := resolve_orderly
  rw [start_of_inactive active]
  generalize resolve t p.environments.size (p.enroll o) = b at terms orderly
  obtain ⟨error | _, q⟩ := b
  · refine ⟨nofun, fun _ _ => ?_⟩
    have offices := (orderly error rfl).offices
    have ends := dropEnvironment_ends t (serving.orderly (orderly error rfl))
    rw [offices.options, offices.owns, new, Bool.not_not] at ends
    exact ends
  · refine ⟨fun e he => ?_, nofun⟩
    cases he
    refine ⟨rfl, terms.active, ?_⟩
    rw [terms.owns, new]

end Activity

/-! ## Where the environments stand -/

namespace Tenure

/-- What is left to do about the live environment, where the environments stand like this. -/
inductive Awaits : Tenure → List Chore → Prop where
  | vacant (n : Nat) (alive : Bool) : Awaits (.vacant n alive) []
  | starting (e : EnvironmentId) (o : Options) (found : Bool) :
      Awaits (.serving e o found) [.resolve e]
  | serving (e : EnvironmentId) (o : Options) (found : Bool) : Awaits (.serving e o found) []
  | closing (e : EnvironmentId) (o : Options) (found : Bool) (loop : Option LoopId)
      (waited : Bool) : Awaits (.closing e o found) [.settleClose e loop waited]
  | leaving (e : EnvironmentId) (o : Options) (found : Bool) (running : Nat) :
      Awaits (.leaving e o found running) [.finishClose (!outlasts o found running)]

/-- Whether the environments of a process stand like this. -/
structure Describes (x : Tenure) (s : System) : Prop where
  mark : s.process.active = x.live?.isSome
  made : s.process.environments.size = x.made
  alive : s.process.host.lock.alive = x.alive
  closed : ∀ e < x.made, ((s.process.environment e).closed = true ↔ x.serves? ≠ some e)
  owns : ∀ e < x.made, ((s.process.environment e).owns = true ↔ x.owner? = some e)
  options : ∀ e o, x.terms? = some (e, o) → (s.process.environment e).options = o
  awaits : x.Awaits (duties s.chores)

end Tenure

namespace System

variable {s next : System} {x y : Tenure} {a : Action}

/-- Where no terms change, no environment is made and none begins to be closed. -/
theorem milestones_of_terms (h : s.process.SameTerms (s.step a).process) :
    s.milestones a = concludes s (s.step a) a := by
  have makes : makes s (s.step a) = [] := by
    rw [System.makes, h.started, if_neg (Nat.lt_irrefl _)]
  have shuts : shuts s (s.step a) = [] := by
    rw [System.shuts, List.map_eq_nil_iff, List.filter_eq_nil_iff]
    intro e _
    rw [h.closed, Bool.and_not_self]
    exact Bool.false_ne_true
  rw [milestones, makes, shuts]
  rfl

end System

/-- How a step can change where the environments stand: it leads past one milestone, or past
none. -/
inductive Tenure.Advances (x : Tenure) (s : System) (a : Action) : Prop where
  | rest (none : s.milestones a = []) (stands : x.Describes (s.step a))
  | pass {m : Milestone} {y : Tenure} (one : s.milestones a = [m]) (next : x.Passes m y)
      (stands : y.Describes (s.step a))

namespace Tenure.Describes

open EmbeddedPython.System

variable {s next : System} {x : Tenure} {a : Action} {n : Nat} {t : ThreadId}

/-- What is said about the environments says nothing else about the process. -/
theorem same (h : x.Describes s) (terms : s.process.SameTerms next.process)
    (awaits : x.Awaits (duties next.chores)) : x.Describes next where
  mark := terms.active.trans h.mark
  made := terms.started.trans h.made
  alive := (congrArg Option.isSome terms.interpreter).trans h.alive
  closed e he := by rw [terms.closed, h.closed e he]
  owns e he := by rw [terms.owns, h.owns e he]
  options e o ho := (terms.options e).trans (h.options e o ho)
  awaits := awaits

theorem rest (h : x.Describes s) (terms : s.process.SameTerms (s.step a).process)
    (none : concludes s (s.step a) a = []) (awaits : x.Awaits (duties (s.step a).chores)) :
    x.Advances s a :=
  .rest ((milestones_of_terms terms).trans none) (h.same terms awaits)

theorem uneventful (h : x.Describes s) (step : s.Uneventful (s.step a))
    (none : concludes s (s.step a) a = []) : x.Advances s a :=
  h.rest step.orderly.offices.terms none (step.duties ▸ h.awaits)

theorem unchanged (h : x.Describes s) (same : s.step a = s)
    (none : concludes s (s.step a) a = []) : x.Advances s a :=
  h.uneventful (same.symm ▸ ⟨.refl _, rfl⟩) none

/-- An environment is made only where none is live. -/
theorem start (h : x.Describes s) (t : ThreadId) (o : Options) : x.Advances s (.start t o) := by
  cases ha : s.process.active with
  | true => exact h.unchanged (step_start_of_active ha t o) rfl
  | false =>
    have hs := step_start_of_inactive ha t o
    cases x with
    | vacant n alive =>
      have size : s.process.environments.size = n := h.made
      have found : s.process.host.lock.alive = alive := h.alive
      have made : (s.step (.start t o)).process.environments.size = n + 1 := by
        rw [hs, Process.enroll_started, size]
      have new (e : EnvironmentId) : (s.step (.start t o)).process.environment e =
          if e = n then ⟨o, !alive, none, none, 0, false⟩ else s.process.environment e := by
        rw [hs, Process.enroll_environment, size, found]
      have one : s.milestones (.start t o) = [.made n o alive] := by
        have shuts : shuts s (s.step (.start t o)) = [] := by
          rw [System.shuts, List.map_eq_nil_iff, List.filter_eq_nil_iff]
          intro e _
          rw [new]
          split <;> simp
        rw [milestones, shuts, makes, size, made, if_pos (Nat.lt_succ_self n), new, if_pos rfl, found]
        rfl
      refine .pass one (.make n alive o) ?_
      exact {
        mark := by rw [hs]; rfl
        made := made
        alive := by rw [hs, Process.enroll_alive]; rfl
        closed := fun e he => by
          rw [new]
          split
          · next hn => simp [serves?, hn]
          · next hn =>
            rw [h.closed e (Nat.lt_of_le_of_ne (Nat.le_of_lt_succ he) hn)]
            simp [serves?, Ne.symm hn]
        owns := fun e he => by
          rw [new]
          split
          · next hn => cases alive <;> simp [owner?, hn]
          · next hn =>
            rw [h.owns e (Nat.lt_of_le_of_ne (Nat.le_of_lt_succ he) hn)]
            cases alive <;> simp [owner?, Ne.symm hn]
        options := fun e o' ho => by
          cases ho
          rw [new, if_pos rfl]
        awaits := by
          have none : duties s.chores = [] := by
            have awaits := h.awaits
            generalize duties s.chores = d at awaits
            cases awaits
            rfl
          rw [hs, duties_append, none, size]
          exact .starting n o alive }
    | _ => exact absurd (ha.symm.trans h.mark) Bool.false_ne_true

/-- The environment that serves is marked as closed. -/
theorem shut {e : EnvironmentId} {o : Options} {found : Bool} {loop : Option LoopId}
    {waited : Bool} (h : (Tenure.serving e o found).Describes s)
    (terms : (s.process.shut e).SameTerms (s.step a).process)
    (none : concludes s (s.step a) a = [])
    (awaits : duties (s.step a).chores = [.settleClose e loop waited]) :
    (Tenure.serving e o found).Advances s a := by
  have known : e < s.process.environments.size := h.made ▸ Nat.lt_succ_self e
  have old (k : EnvironmentId) : (s.process.shut e).environment k = if k = e then
      { s.process.environment e with closed := true, defaultLoop := .none }
      else s.process.environment k := by
    rw [Process.shut, Process.environment_changeEnvironment]
    simp only [known, and_true]
  have size : (s.step a).process.environments.size = s.process.environments.size :=
    terms.started.trans Array.size_modify
  have closed (k : EnvironmentId) (hk : k < e + 1) :
      ((s.step a).process.environment k).closed = true := by
    rw [terms.closed, old]
    split
    · rfl
    · next hn => exact (h.closed k hk).mpr (by simpa [serves?] using Ne.symm hn)
  have one : s.milestones a = [.shut e] := by
    have shuts : shuts s (s.step a) = [.shut e] := by
      rw [System.shuts, size, show s.process.environments.size = e + 1 from h.made,
        List.range_succ, List.filter_append, List.filter_eq_nil_iff.mpr, List.nil_append]
      · have opened : (s.process.environment e).closed = false := by
          rw [← Bool.not_eq_true, h.closed e (Nat.lt_succ_self e)]
          simp [serves?]
        simp [closed e (Nat.lt_succ_self e), opened]
      · intro k hk
        have lt := List.mem_range.mp hk
        rw [(h.closed k (Nat.lt_succ_of_lt lt)).mpr (by simpa [serves?] using (Nat.ne_of_lt lt).symm)]
        simp
    rw [milestones, makes, size, if_neg (Nat.lt_irrefl _), shuts, none]
    rfl
  refine .pass one (.shut e o found) ?_
  exact {
    mark := terms.active.trans h.mark
    made := size.trans h.made
    alive := (congrArg Option.isSome terms.interpreter).trans h.alive
    closed := fun k hk => iff_of_true (closed k hk) (by rintro ⟨⟩)
    owns := fun k hk => by
      have same : ((s.process.shut e).environment k).owns = (s.process.environment k).owns := by
        rw [old]
        split
        · next hn => rw [hn]
        · rfl
      rw [terms.owns, same, h.owns k hk]
      rfl
    options := fun k o' ho => by
      have same : ((s.process.shut e).environment k).options = (s.process.environment k).options := by
        rw [old]
        split
        · next hn => rw [hn]
        · rfl
      rw [terms.options, same, h.options k o' ho]
    awaits := awaits ▸ .closing e o found loop waited }

/-- An environment that is open begins to be closed by whoever closes it. -/
theorem close (h : x.Describes s) (ordered : s.Ordered) (t : ThreadId) (e : EnvironmentId) :
    x.Advances s (.close t e) := by
  cases hb : isOpen s.process e with
  | false => exact h.unchanged (step_close_of_not_open hb t) rfl
  | true =>
    cases hc : (s.process.environment e).closed with
    | true => exact h.unchanged (step_close_of_closed hc t) rfl
    | false =>
      have known : e < x.made := h.made ▸ Process.lt_size_of_bindings hb
      have serves : x.serves? = some e := by
        refine Classical.byContradiction fun other => ?_
        rw [(h.closed e known).mpr other] at hc
        cases hc
      cases x with
      | serving k o found =>
        obtain rfl : k = e := Option.some.inj serves
        have bound : duties s.chores = [] := by
          have awaits := h.awaits
          have stage := ordered.stage
          generalize duties s.chores = d at awaits stage
          cases awaits with
          | serving => rfl
          | starting =>
            cases stage with
            | starting _ _ _ _ _ unbound => rw [isOpen, unbound] at hb; cases hb
        obtain ⟨orderly, loop, waited, hd⟩ := closing_of_open t hc
        have hs := step_close_of_open hb t
        refine h.shut (by rw [hs]; exact orderly.offices.terms) rfl (Eq.trans ?_ hd)
        rw [hs, after, duties_append, bound, List.nil_append]
      | _ => cases serves

/-- The live environment resolves what it needs, or begins to be closed. -/
theorem resolve (h : x.Describes s) (ordered : s.Ordered) {e : EnvironmentId}
    (hn : s.chores[n]? = some (t, .resolve e)) : x.Advances s (.proceed n) := by
  obtain ⟨only, rest⟩ := ordered.only hn rfl
  have hs := step_proceed hn
  have none : concludes s (s.step (.proceed n)) (.proceed n) = [] := by simp only [concludes, hn]
  have awaits := h.awaits
  rw [only] at awaits
  cases awaits with
  | starting _ o found =>
    have terms := resolve_terms t e s.process
    rcases hb : Activity.resolve t e s.process with ⟨error | _, q⟩
    all_goals rw [hb] at terms
    · have hr : (Chore.resolve e).run t s.process = EmbeddedPython.closing t e q := by
        simp only [Chore.run]
        rw [run_bind, hb]
      have opened : (q.environment e).closed = false := by
        rw [terms.closed, ← Bool.not_eq_true, h.closed e (Nat.lt_succ_self e)]
        simp [serves?]
      obtain ⟨orderly, loop, waited, hd⟩ := closing_of_open t opened
      refine h.shut ?_ none (Eq.trans ?_ hd)
      · rw [hs, after, hr]
        exact (terms.shut e).trans orderly.offices.terms
      · rw [hs, after, duties_append, rest, hr, List.nil_append]
    · have hr : (Chore.resolve e).run t s.process = ([], q) := by
        simp only [Chore.run]
        rw [run_bind, hb]
        rfl
      refine h.rest ?_ none ?_
      · rw [hs, after, hr]
        exact terms
      · rw [hs, after, duties_append, rest, hr]
        exact .serving e o found

/-- The live environment that is being closed lets go of everything. -/
theorem settle (h : x.Describes s) (ordered : s.Ordered) {e : EnvironmentId}
    {loop : Option LoopId} {waited : Bool}
    (hn : s.chores[n]? = some (t, .settleClose e loop waited)) : x.Advances s (.proceed n) := by
  obtain ⟨only, rest⟩ := ordered.only hn rfl
  have hs := step_proceed hn
  have awaits := h.awaits
  rw [only] at awaits
  cases awaits with
  | closing _ o found =>
    have hr : (Chore.settleClose e loop waited).run t s.process =
        ([(t, .finishClose (settleClose t e loop waited s.process).1.2)],
          (settleClose t e loop waited s.process).2) := rfl
    obtain ⟨q, pq, qr, decided⟩ := settleClose_terms t e loop waited s.process
    generalize settleClose t e loop waited s.process = b at hr qr decided
    obtain ⟨⟨result, finalizes⟩, r⟩ := b
    dsimp only at hr qr decided
    have next : (s.step (.proceed n)).process = r := by rw [hs, after, hr]
    have known : e < q.environments.size := by
      rw [pq.started, h.made]
      exact Nat.lt_succ_self e
    have old (k : EnvironmentId) : (q.changeEnvironment e fun x => { x with owns := false }).environment k
        = if k = e then { q.environment e with owns := false } else q.environment k := by
      rw [Process.environment_changeEnvironment]
      simp only [known, and_true]
    have size : r.environments.size = s.process.environments.size :=
      qr.started.trans (Array.size_modify.trans pq.started)
    have closed (k : EnvironmentId) :
        (r.environment k).closed = (s.process.environment k).closed := by
      rw [qr.closed, old, ← pq.closed]
      split
      · next hk => rw [hk]
      · rfl
    have one : s.milestones (.proceed n) = [.settled e (r.environment e).leases] := by
      have makes : makes s (s.step (.proceed n)) = [] := by
        rw [System.makes, next, size, if_neg (Nat.lt_irrefl _)]
      have shuts : shuts s (s.step (.proceed n)) = [] := by
        rw [System.shuts, next, List.map_eq_nil_iff, List.filter_eq_nil_iff]
        intro k _
        rw [closed, Bool.and_not_self]
        exact Bool.false_ne_true
      simp only [milestones, makes, shuts, concludes, hn, next, List.nil_append]
    refine .pass one (.settle e o found _) ?_
    exact {
      mark := by rw [next]; exact (qr.active.trans pq.active).trans h.mark
      made := by rw [next]; exact size.trans h.made
      alive := by
        rw [next]
        exact (congrArg Option.isSome (qr.interpreter.trans pq.interpreter)).trans h.alive
      closed := fun k hk => by
        rw [next, closed, h.closed k hk]
        rfl
      owns := fun k hk => by
        rw [next, qr.owns, old]
        split
        · exact iff_of_false Bool.false_ne_true (by rintro ⟨⟩)
        · next hn =>
          rw [pq.owns, h.owns k hk]
          cases found <;> simp [owner?, Ne.symm hn]
      options := fun k o' ho => by
        cases ho
        rw [next, qr.options, old, if_pos rfl]
        exact (pq.options e).trans (h.options e o rfl)
      awaits := by
        have owned : (s.process.environment e).owns = !found := by
          rw [Bool.eq_iff_iff, h.owns e (Nat.lt_succ_self e)]
          cases found <;> simp [owner?]
        have decision : finalizes = !outlasts o found (r.environment e).leases := by
          rw [decided, owned, h.options e o rfl, outlasts]
          cases found <;> cases o.finalizeOnShutdown <;> simp [bne]
        rw [hs, after, duties_append, rest, hr, decision]
        exact .leaving e o found _ }

/-- The live environment is over. -/
theorem finish (h : x.Describes s) (ordered : s.Ordered) {finalizes : Bool}
    (hn : s.chores[n]? = some (t, .finishClose finalizes)) : x.Advances s (.proceed n) := by
  obtain ⟨only, rest⟩ := ordered.only hn rfl
  have hs := step_proceed hn
  have awaits := h.awaits
  rw [only] at awaits
  generalize hf : finalizes = f at awaits
  cases awaits with
  | leaving e o found running =>
    obtain ⟨k, finished, gone⟩ := finishClose_eq t finalizes s.process
    have hr : (Chore.finishClose finalizes).run t s.process =
        ([], { s.process with host := k, active := false }) := by
      simp only [Chore.run]
      rw [run_bind, finished]
      rfl
    have left : k.lock.alive = outlasts o found running := by
      rw [gone, h.alive, hf, Bool.not_not]
      rfl
    have next : (s.step (.proceed n)).process = { s.process with host := k, active := false } := by
      rw [hs, after, hr]
    have one : s.milestones (.proceed n) = [.over (outlasts o found running)] := by
      have makes : makes s (s.step (.proceed n)) = [] := by
        rw [System.makes, next, if_neg (Nat.lt_irrefl _)]
      have shuts : shuts s (s.step (.proceed n)) = [] := by
        rw [System.shuts, next, List.map_eq_nil_iff, List.filter_eq_nil_iff]
        intro k _
        show ¬ ((s.process.environment k).closed && !(s.process.environment k).closed) = true
        rw [Bool.and_not_self]
        exact Bool.false_ne_true
      simp only [milestones, makes, shuts, concludes, hn, next, left, List.nil_append]
    refine .pass one (.leave e o found running) ?_
    exact {
      mark := by rw [next]; rfl
      made := by rw [next]; exact h.made
      alive := by rw [next]; exact left
      closed := fun k hk => by rw [next]; exact h.closed k hk
      owns := fun k hk => by rw [next]; exact h.owns k hk
      options := fun k o' ho => by cases ho
      awaits := by
        rw [hs, after, duties_append, rest, hr]
        exact .vacant _ _ }

/-- Every step leads past at most one milestone. -/
theorem step (h : x.Describes s) (ordered : s.Ordered) (a : Action) : x.Advances s a := by
  cases a with
  | submit t l awaitable token =>
    exact h.uneventful (uneventful_submit t l awaitable token) rfl
  | start t o => exact h.start t o
  | close t e => exact h.close ordered t e
  | proceed n =>
    cases hn : s.chores[n]? with
    | none =>
      refine h.unchanged ?_ ?_
      · simp only [System.step, hn]
      · simp only [concludes, hn]
    | some tc =>
      obtain ⟨t, c⟩ := tc
      cases c with
      | resolve e => exact h.resolve ordered hn
      | settleClose e loop waited => exact h.settle ordered hn
      | finishClose finalizes => exact h.finish ordered hn
      | _ => exact h.uneventful (uneventful_proceed hn rfl) (by simp only [concludes, hn])
  | _ => exact h.uneventful (uneventful_begin trivial) rfl

/-- An environment that has been handed out and has not begun to be closed is the live one. -/
theorem isServing {e : EnvironmentId} {o : Options} {found : Bool}
    (h : (Tenure.serving e o found).Describes s) (ordered : s.Ordered)
    (bound : isOpen s.process e = true) : Serving s.process e := by
  have known : e < s.process.environments.size := Process.lt_size_of_bindings bound
  have opened : (s.process.environment e).closed = false := by
    rw [← Bool.not_eq_true, h.closed e (Nat.lt_succ_self e)]
    simp [serves?]
  have unbound (vacant : s.process.Vacant e) : False := by
    rw [isOpen, vacant.bindings] at bound
    cases bound
  have others : ∀ k, k ≠ e → s.process.Vacant k := by
    have stage := ordered.stage
    generalize duties s.chores = d at stage
    have mine {k : EnvironmentId} (others : ∀ j, j ≠ k → s.process.Vacant j) : e = k :=
      Classical.byContradiction fun hk => unbound (others e hk)
    cases stage with
    | idle _ vacant => exact fun k _ => vacant k
    | starting k _ _ _ _ _ others => exact mine others ▸ others
    | serving k _ _ _ others => exact mine others ▸ others
    | closing k _ _ _ _ _ others => exact mine others ▸ others
    | finishing _ _ vacant => exact fun k _ => vacant k
  exact ⟨ordered.custody, h.mark, h.alive, known, opened, others⟩

theorem initial (attached : Bool) :
    (Tenure.vacant 0 attached).Describes (System.initial attached) where
  mark := by cases attached <;> rfl
  made := by cases attached <;> rfl
  alive := by cases attached <;> rfl
  closed _ he := absurd he (Nat.not_lt_zero _)
  owns _ he := absurd he (Nat.not_lt_zero _)
  options _ _ ho := nomatch ho
  awaits := .vacant 0 attached

end Tenure.Describes

/-! ## The law of the lifecycle -/

namespace System

/-- Where no environment is live, none has a part in the interpreter. -/
theorem Ordered.vacant {s : System} (h : s.Ordered) (inactive : s.process.active = false)
    (e : EnvironmentId) : s.process.Vacant e := by
  have stage := h.stage
  generalize duties s.chores = d at stage
  cases stage with
  | idle _ vacant => exact vacant e
  | starting _ active => rw [inactive] at active; cases active
  | serving _ active => rw [inactive] at active; cases active
  | closing _ _ _ active => rw [inactive] at active; cases active
  | finishing _ active => rw [inactive] at active; cases active

/-- What has happened to the environments of a process, and what can happen to them. -/
structure Lifecycle (attached : Bool) (H : List Milestone) (s : System) (x : Tenure) : Prop where
  /-- the lives of environments follow one another -/
  turns : Succession attached H x
  /-- the mark is set as long as an environment is live -/
  mark : s.process.active = x.live?.isSome
  /-- the interpreter is there as long as an environment is live, or as the last one has left it -/
  interpreter : s.process.host.lock.alive = x.alive
  made : s.process.environments.size = x.made
  closed : ∀ e, (s.process.environment e).closed = true ↔ .shut e ∈ H
  /-- an environment owns the interpreter until it lets go of everything, if it has found none -/
  owns : ∀ e o found, .made e o found ∈ H → ((s.process.environment e).owns = true ↔
    found = false ∧ ∀ running, .settled e running ∉ H)
  /-- an environment counts its running drivers -/
  counts : ∀ e, (s.process.environment e).leases = (s.process.drivers e).card
  /-- a start is refused if and only if an environment is live -/
  refused : ∀ t o, (start t o s.process).1 = .error .alreadyRunning ↔ x.live?.isSome = true
  /-- and changes nothing then -/
  unchanged : x.live?.isSome = true → ∀ t o,
    start t o s.process = (.error .alreadyRunning, s.process) ∧ s.step (.start t o) = s
  /-- otherwise it leaves a new environment live, or none if it fails -/
  starts : x.live? = none → ∀ t o,
    (∀ e, (start t o s.process).1 = .ok e → e = x.made ∧
      (start t o s.process).2.active = true ∧
      ((start t o s.process).2.environment e).owns = !x.alive) ∧
    (∀ error, (start t o s.process).1 = .error error →
      (start t o s.process).2.active = false ∧ (start t o s.process).2.host.lock.alive =
        Tenure.outlasts o x.alive ((start t o s.process).2.drivers x.made).card)
  /-- a live environment that is closed leaves no live one, and takes the interpreter with it if it
  has found none, is to finalize it and has no running driver -/
  ends : ∀ e o found, x = .serving e o found → isOpen s.process e = true → ∀ t,
    (close t e s.process).2.active = false ∧ (close t e s.process).2.host.lock.alive =
      Tenure.outlasts o found ((close t e s.process).2.drivers e).card
  /-- to close an environment or to drop it changes nothing once it has begun to be closed -/
  repeated : ∀ e, .shut e ∈ H → ∀ t, close t e s.process = (.ok (), s.process) ∧
    dropEnvironment t e s.process = ((), s.process) ∧ s.step (.close t e) = s

/-- What is said about the environments is said of every run. -/
theorem describes_run (attached : Bool) (actions : List Action) : ∃ x : Tenure,
    Succession attached (chronicle attached actions) x ∧ x.Describes (run attached actions) := by
  induction actions using List.reverseRecOn with
  | nil => exact ⟨_, .begin, .initial attached⟩
  | append_singleton actions a ih =>
    obtain ⟨x, turns, stands⟩ := ih
    have from_one : (run attached actions).chronicleFrom [a] =
        (run attached actions).milestones a := List.append_nil _
    rw [chronicle_append, run_append, from_one]
    cases stands.step (ordered_run attached actions) a with
    | rest none stands => exact ⟨x, by rw [none, List.append_nil]; exact turns, stands⟩
    | pass one next stands => exact ⟨_, one ▸ turns.pass next, stands⟩

/-- In every run environments live one after the other. A start is refused if and only if one is
live, and changes nothing then; an environment owns the interpreter if and only if it has found
none; when it is over the interpreter is gone if and only if it owned it, was to finalize it and had
no running driver; and the mark is cleared once for each life, so that whoever closes or drops an
environment again leaves those alone that have been started since. -/
theorem environments_live_in_turn (attached : Bool) (actions : List Action) :
    ∃ x, Lifecycle attached (chronicle attached actions) (run attached actions) x := by
  obtain ⟨x, turns, stands⟩ := describes_run attached actions
  have ordered := ordered_run attached actions
  generalize run attached actions = s at stands ordered
  generalize chronicle attached actions = H at turns
  have closed (e : EnvironmentId) : (s.process.environment e).closed = true ↔ .shut e ∈ H := by
    rw [turns.shut_iff]
    by_cases known : e < x.made
    · rw [stands.closed e known]
      exact (and_iff_right known).symm
    · have none : s.process.environment e = default := by
        simp [Process.environment, Array.getD, stands.made, known]
      rw [none]
      exact iff_of_false Bool.false_ne_true fun h => known h.1
  refine ⟨x, ?_⟩
  exact {
    turns := turns
    mark := stands.mark
    interpreter := stands.alive
    made := stands.made
    closed := closed
    owns := fun e o found made => by
      rw [stands.owns e (turns.lt_made made), turns.owner_iff made]
    counts := ordered.custody.counted
    refused := fun t o => by rw [start_refused_iff, stands.mark]
    unchanged := fun live t o =>
      have active := stands.mark.trans live
      ⟨start_of_active active, step_start_of_active active t o⟩
    starts := fun idle t o => by
      have inactive : s.process.active = false := by rw [stands.mark, idle]; rfl
      rw [← stands.made, ← stands.alive]
      exact start_ends t o ordered.custody inactive (ordered.vacant inactive)
    ends := fun e o found hx bound t => by
      subst hx
      have known : e < e + 1 := Nat.lt_succ_self e
      have owned : (!(s.process.environment e).owns) = found := by
        rw [Bool.eq_iff_iff, Bool.not_eq_true', ← Bool.not_eq_true, stands.owns e known]
        cases found <;> simp [Tenure.owner?]
      rw [← owned, ← stands.options e o rfl]
      exact close_ends t (stands.isServing ordered bound)
    repeated := fun e shut t =>
      have again := (closed e).mpr shut
      ⟨close_of_closed t again, dropEnvironment_of_closed t again, step_close_of_closed again t⟩ }

end System

end EmbeddedPython
