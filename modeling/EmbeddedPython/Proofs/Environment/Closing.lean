import EmbeddedPython.Proofs.Environment.Lifecycle
import EmbeddedPython.Proofs.Environment.Waking

/-
  What a closing says

  A closing is to say that its default loop could not be disposed of, or else how
  many drivers of the environment are still running. The drivers are looked at
  where it is decided whether to finalize the interpreter, and only an environment
  that owns the interpreter and is to finalize it has this to decide. Any other
  one says what came of its default loop, and nothing of the drivers that it
  leaves behind.
-/

namespace EmbeddedPython

open Activity Bridge

/-- What a closing is to say: why the default loop could not be disposed of, or how many drivers are
still running. -/
def report (disposed : Except Error Unit) (running : Nat) : Except Error Unit :=
  match disposed with
  | .ok _ => if running = 0 then .ok () else .error (.eventLoopsRunning running)
  | .error e => .error e

/-- Whether an environment has to decide whether to finalize the interpreter. -/
def Environment.decides (x : Environment) : Bool := x.owns && x.options.finalizeOnShutdown

/-- What the closing of an environment says, by what came of its default loop and how many of its
drivers are running. -/
structure Reports (x : Environment) (disposed : Except Error Unit) (running : Nat)
    (told : Except Error Unit) : Prop where
  said : told = if x.decides then report disposed running else disposed
  /-- the drivers are passed over if there is nothing to decide, and nothing else to say -/
  passedOver : told ≠ report disposed running ↔
    x.decides = false ∧ disposed = .ok () ∧ running ≠ 0
  /-- it is then that a closing succeeds with drivers running -/
  unnoticed : told = .ok () ∧ running ≠ 0 ↔
    x.decides = false ∧ disposed = .ok () ∧ running ≠ 0

theorem Reports.of_told {x : Environment} {disposed : Except Error Unit} {running : Nat}
    {told : Except Error Unit}
    (h : told = if x.decides then report disposed running else disposed) :
    Reports x disposed running told := by
  subst h
  constructor
  · rfl
  all_goals
    cases disposed <;> cases x.decides <;> by_cases none : running = 0 <;> simp [report, none]

namespace Activity

theorem decideClose_told (x : Environment) (disposed : Except Error Unit) (p : Process) :
    (decideClose x disposed p).1.1 = if x.decides then report disposed x.leases else disposed := by
  have decides : x.decides = !(!x.owns || !x.options.finalizeOnShutdown) := by
    rw [Environment.decides, Bool.not_or, Bool.not_not, Bool.not_not]
  simp only [decideClose, decides]
  cases (!x.owns || !x.options.finalizeOnShutdown) with
  | true => rfl
  | false =>
    by_cases none : x.leases = 0
    · simp only [none]
      cases disposed <;> rfl
    · simp only [none, if_false]
      cases disposed with
      | ok _ => exact (if_neg none).symm
      | error e => rfl

/-- An environment that is settled says what it is to say, if it has to decide. -/
theorem settleClose_reports (t : ThreadId) (e : EnvironmentId) (loop : Option LoopId)
    (waited : Bool) (p : Process) (custody : (settleClose t e loop waited p).2.Custody) :
    Reports (p.environment e) (endDefault t loop waited p).1
      ((settleClose t e loop waited p).2.drivers e).card (settleClose t e loop waited p).1.1 := by
  obtain ⟨q, pq, settled⟩ := settleClose_eq t e loop waited p
  refine .of_told ?_
  have decides : (q.environment e).decides = (p.environment e).decides := by
    rw [Environment.decides, pq.owns, pq.options]
    rfl
  rw [← custody.counted, settled, decideClose_told, decideClose_leases, decides]

end Activity

namespace System

/-- An environment that has been handed out and not been closed is the live one. -/
theorem serving_of_open {s : System} {x : Tenure} (h : x.Describes s) (ordered : s.Ordered)
    {e : EnvironmentId} (bound : isOpen s.process e = true)
    (opened : (s.process.environment e).closed = false) : Serving s.process e := by
  have known : e < x.made := h.made ▸ Process.lt_size_of_bindings bound
  have serves : x.serves? = some e := by
    by_contra other
    rw [(h.closed e known).mpr other] at opened
    cases opened
  cases x with
  | serving k o found =>
    cases serves
    exact h.isServing ordered bound
  | _ => cases serves

/-- In every run a closing says that the default loop could not be disposed of, or else how many
drivers of the environment are running, if the environment owns the interpreter and is to finalize
it. Otherwise it says no more than what came of the default loop, and succeeds with drivers running.
This is so where other threads have acted while the default loop was waited for, and of a whole
call. -/
theorem closing_reports_if_it_decides (attached : Bool) (actions : List Action) (t : ThreadId)
    (e : EnvironmentId) :
    let p := (run attached actions).process
    (∀ loop waited, (t, .settleClose e loop waited) ∈ (run attached actions).chores →
      Reports (p.environment e) (endDefault t loop waited p).1
        ((settleClose t e loop waited p).2.drivers e).card (settleClose t e loop waited p).1.1) ∧
    (isOpen p e = true → (p.environment e).closed = false →
      ∃ loop waited q, awaitClose t e p = (some (loop, waited), q) ∧
        Reports (p.environment e) (endDefault t loop waited q).1
          ((close t e p).2.drivers e).card (close t e p).1) := by
  intro p
  have ordered := ordered_run attached actions
  refine ⟨fun loop waited pending => ?_, fun bound opened => ?_⟩
  · obtain ⟨n, hn⟩ := List.mem_iff_getElem?.mp pending
    have stage := (ordered.only hn rfl).1 ▸ ordered.stage
    obtain ⟨custody, -⟩ := settleClose_stage t ordered.custody stage
    exact settleClose_reports t e loop waited p custody
  · obtain ⟨x, -, stands⟩ := describes_run attached actions
    have serving := serving_of_open stands ordered bound opened
    obtain ⟨loop, waited, q, awaited, closed, pq, custody, stage⟩ := close_settles t serving
    obtain ⟨custody, -⟩ := settleClose_stage t custody stage
    have reports := settleClose_reports t e loop waited q custody
    -- what it has found and what it is to do have not changed since
    have same : (q.environment e).decides = (p.environment e).decides := by
      rw [Environment.decides, pq.offices.owns, pq.offices.options, Process.shut,
        Process.environment_self serving.known]
      rfl
    refine ⟨loop, waited, q, awaited, .of_told ?_⟩
    have said := reports.said
    rw [same] at said
    obtain ⟨k, finished, -⟩ := finishClose_eq t (settleClose t e loop waited q).1.2
      (settleClose t e loop waited q).2
    have ended : close t e p = ((settleClose t e loop waited q).1.1,
        { (settleClose t e loop waited q).2 with host := k, active := false }) := by
      rw [closed, endClose, run_bind]
      show ((settleClose t e loop waited q).1.1, (finishClose t _ _).2) = _
      rw [finished]
    rw [ended]
    exact said

/-- An environment attaches to an interpreter and opens a loop, which nobody disposes of. -/
def lingering : List Action := [.start 0 Options.default, .proceed 0, .openLoop 0 0]

theorem lingering_state :
    isOpen (run true lingering).process 0 = true ∧
    ((run true lingering).process.environment 0).closed = false ∧
    ((run true (lingering ++ [Action.close 0 0])).chores = [(0, .settleClose 0 none false)]) ∧
    (close 0 0 (run true lingering).process).1 = .ok () ∧
    ((close 0 0 (run true lingering).process).2.drivers 0).card = 1 := by
  rw [show lingering = [.start 0 Options.default, .proceed 0] ++ [.openLoop 0 0] from rfl,
    List.append_assoc, run_started, run_started]
  decide +kernel

/-- The environment is closed without a complaint, and its driver is still running. -/
theorem driver_outlives_closing : (close 0 0 (run true lingering).process).1 = .ok () ∧
    ((close 0 0 (run true lingering).process).2.drivers 0).card = 1 :=
  lingering_state.2.2.2

/-- An environment that is attached passes over the driver, before its closing is settled and in a
whole call. -/
theorem lingering_passed_over :
    (0, Chore.settleClose 0 none false) ∈ (run true (lingering ++ [Action.close 0 0])).chores ∧
    Reports ((run true (lingering ++ [Action.close 0 0])).process.environment 0) (.ok ())
      ((settleClose 0 0 none false
        (run true (lingering ++ [Action.close 0 0])).process).2.drivers 0).card
      (settleClose 0 0 none false (run true (lingering ++ [Action.close 0 0])).process).1.1 ∧
    ∃ disposed, Reports ((run true lingering).process.environment 0) disposed 1 (.ok ()) := by
  obtain ⟨bound, opened, chores, told, running⟩ := lingering_state
  have pending : (0, Chore.settleClose 0 none false) ∈
      (run true (lingering ++ [Action.close 0 0])).chores := by simp [chores]
  refine ⟨pending,
    (closing_reports_if_it_decides true (lingering ++ [.close 0 0]) 0 0).1 none false pending, ?_⟩
  obtain ⟨loop, waited, q, -, reports⟩ :=
    (closing_reports_if_it_decides true lingering 0 0).2 bound opened
  rw [told, running] at reports
  exact ⟨_, reports⟩

end System

end EmbeddedPython
