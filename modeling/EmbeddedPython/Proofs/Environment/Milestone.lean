import EmbeddedPython.Environment.System

/-
  The lives of environments

  An environment is made, begins to be closed, lets go of everything and is over
  when the mark of the live one is cleared. `chronicle` lists these milestones
  of a run, as they are seen in its states, and `Succession` says how the lives
  of environments follow one another: one at a time, each with every milestone
  once, and each finding the interpreter as the one before has left it.
-/

namespace EmbeddedPython

open Bridge

/-- A point in the life of an environment. -/
inductive Milestone where
  /-- an environment is made, where an interpreter is found or not -/
  | made (e : EnvironmentId) (o : Options) (found : Bool)
  /-- an environment begins to be closed -/
  | shut (e : EnvironmentId)
  /-- an environment has let go of everything, while so many of its drivers are running -/
  | settled (e : EnvironmentId) (running : Nat)
  /-- the mark of the live environment is cleared, and the interpreter is left initialized or not -/
  | over (alive : Bool)
  deriving DecidableEq

namespace System

/-- The environments that have been made by a step. -/
def makes (s next : System) : List Milestone :=
  if s.process.environments.size < next.process.environments.size then
    [.made s.process.environments.size
      (next.process.environment s.process.environments.size).options s.process.host.lock.alive]
  else []

/-- The environments that begin to be closed in a step. -/
def shuts (s next : System) : List Milestone :=
  ((List.range next.process.environments.size).filter fun e =>
    (next.process.environment e).closed && !(s.process.environment e).closed).map .shut

/-- What the chore that is taken up is to the life of an environment. -/
def concludes (s next : System) : Action → List Milestone
  | .proceed n =>
    match s.chores[n]? with
    | some (_, .settleClose e _ _) => [.settled e (next.process.environment e).leases]
    | some (_, .finishClose _) => [.over next.process.host.lock.alive]
    | _ => []
  | _ => []

/-- The milestones that an action leads past. -/
def milestones (s : System) (a : Action) : List Milestone :=
  makes s (s.step a) ++ shuts s (s.step a) ++ concludes s (s.step a) a

/-- The milestones that some actions lead past. -/
def chronicleFrom (s : System) : List Action → List Milestone
  | [] => []
  | a :: actions => s.milestones a ++ chronicleFrom (s.step a) actions

/-- The milestones of a run. -/
def chronicle (attached : Bool) (actions : List Action) : List Milestone :=
  chronicleFrom (initial attached) actions

theorem chronicleFrom_append (s : System) (as bs : List Action) :
    s.chronicleFrom (as ++ bs) = s.chronicleFrom as ++ (as.foldl step s).chronicleFrom bs := by
  induction as generalizing s with
  | nil => rfl
  | cons a as ih => simp [chronicleFrom, ih]

theorem chronicle_append (attached : Bool) (as bs : List Action) :
    chronicle attached (as ++ bs) =
      chronicle attached as ++ (run attached as).chronicleFrom bs :=
  chronicleFrom_append _ as bs

end System

/-! ## One life after the other -/

/-- Where the environments of a process stand. -/
inductive Tenure where
  /-- none is live, so many have been, and an interpreter is initialized or not -/
  | vacant (made : Nat) (alive : Bool)
  /-- an environment is live that found an interpreter or not -/
  | serving (e : EnvironmentId) (o : Options) (found : Bool)
  /-- it is being closed -/
  | closing (e : EnvironmentId) (o : Options) (found : Bool)
  /-- it has let go of everything, when so many of its drivers were running -/
  | leaving (e : EnvironmentId) (o : Options) (found : Bool) (running : Nat)
  deriving DecidableEq

namespace Tenure

/-- The live environment. -/
def live? : Tenure → Option EnvironmentId
  | vacant _ _ => none
  | serving e _ _ | closing e _ _ | leaving e _ _ _ => some e

/-- The live environment, if it has not begun to be closed. -/
def serves? : Tenure → Option EnvironmentId
  | serving e _ _ => some e
  | _ => none

/-- The live environment, if it has not let go of everything. -/
def holds? : Tenure → Option EnvironmentId
  | serving e _ _ | closing e _ _ => some e
  | _ => none

/-- The live environment, if it owns the interpreter. -/
def owner? : Tenure → Option EnvironmentId
  | serving e _ found | closing e _ found => if found then none else some e
  | _ => none

/-- The live environment, with its options. -/
def terms? : Tenure → Option (EnvironmentId × Options)
  | vacant _ _ => none
  | serving e o _ | closing e o _ | leaving e o _ _ => some (e, o)

/-- How many environments have been made. -/
def made : Tenure → Nat
  | vacant n _ => n
  | serving e _ _ | closing e _ _ | leaving e _ _ _ => e + 1

/-- Whether an interpreter is initialized. -/
def alive : Tenure → Bool
  | vacant _ alive => alive
  | _ => true

/-- Whether the interpreter outlasts an environment: it is finalized only by the environment that
has initialized it, if that is to finalize it and none of its drivers is running. -/
def outlasts (o : Options) (found : Bool) (running : Nat) : Bool :=
  found || !o.finalizeOnShutdown || running != 0

/-- How a milestone changes where the environments stand. -/
inductive Passes : Tenure → Milestone → Tenure → Prop where
  | make (n : Nat) (alive : Bool) (o : Options) :
      Passes (vacant n alive) (.made n o alive) (serving n o alive)
  | shut (e : EnvironmentId) (o : Options) (found : Bool) :
      Passes (serving e o found) (.shut e) (closing e o found)
  | settle (e : EnvironmentId) (o : Options) (found : Bool) (running : Nat) :
      Passes (closing e o found) (.settled e running) (leaving e o found running)
  | leave (e : EnvironmentId) (o : Options) (found : Bool) (running : Nat) :
      Passes (leaving e o found running) (.over (outlasts o found running))
        (vacant (e + 1) (outlasts o found running))

end Tenure

/-- How the lives of environments follow one another, where there was an interpreter at first or
not, and where the environments stand after that. -/
inductive Succession (attached : Bool) : List Milestone → Tenure → Prop where
  | begin : Succession attached [] (.vacant 0 attached)
  | pass {H : List Milestone} {x y : Tenure} {m : Milestone} (h : Succession attached H x)
      (next : x.Passes m y) : Succession attached (H ++ [m]) y

namespace Succession

variable {attached : Bool} {H : List Milestone} {x : Tenure} {e : EnvironmentId}

/-- The environments that have begun to be closed are those that are made and do not serve. -/
theorem shut_iff (h : Succession attached H x) :
    .shut e ∈ H ↔ e < x.made ∧ x.serves? ≠ some e := by
  induction h with
  | begin => simp [Tenure.made]
  | pass _ next ih =>
    rw [List.mem_append, ih]
    cases next <;> grind [Tenure.made, Tenure.serves?]

/-- The environments that have let go of everything are those that are made and hold on to
nothing. -/
theorem settled_iff (h : Succession attached H x) :
    (∃ running, .settled e running ∈ H) ↔ e < x.made ∧ x.holds? ≠ some e := by
  induction h with
  | begin => simp [Tenure.made]
  | pass _ next ih =>
    simp only [List.mem_append, exists_or, ih]
    cases next <;> grind [Tenure.made, Tenure.holds?]

/-- The environments that have been made are numbered in order. -/
theorem lt_made (h : Succession attached H x) {o : Options} {found : Bool}
    (made : .made e o found ∈ H) : e < x.made := by
  induction h with
  | begin => cases made
  | pass _ next ih =>
    rcases List.mem_append.mp made with old | new
    · refine Nat.lt_of_lt_of_le (ih old) ?_
      cases next <;> simp [Tenure.made]
    · cases List.mem_singleton.mp new
      cases next
      exact Nat.lt_succ_self e

/-- An environment that holds on to anything is the one that has been made last. -/
theorem made_of_holds (h : Succession attached H x) {o o' : Options} {found found' : Bool}
    (made : .made e o found ∈ H) (holds : x = .serving e o' found' ∨ x = .closing e o' found') :
    o = o' ∧ found = found' := by
  induction h with
  | begin => cases made
  | pass h next ih =>
    rcases List.mem_append.mp made with old | new
    · cases next with
      | make n =>
        obtain ⟨rfl, rfl, rfl⟩ := Tenure.serving.inj (holds.resolve_right nofun)
        exact absurd (h.lt_made old) (Nat.lt_irrefl _)
      | shut =>
        obtain ⟨rfl, rfl, rfl⟩ := Tenure.closing.inj (holds.resolve_left nofun)
        exact ih old (.inl rfl)
      | settle => exact (holds.elim nofun nofun)
      | leave => exact (holds.elim nofun nofun)
    · cases List.mem_singleton.mp new
      cases next
      obtain ⟨-, rfl, rfl⟩ := Tenure.serving.inj (holds.resolve_right nofun)
      exact ⟨rfl, rfl⟩

/-- The owner of the interpreter has found none, and has not let go of everything. -/
theorem owner_iff (h : Succession attached H x) {o : Options} {found : Bool}
    (made : .made e o found ∈ H) :
    x.owner? = some e ↔ found = false ∧ ∀ running, .settled e running ∉ H := by
  have known := h.lt_made made
  have holds : (∀ running, .settled e running ∉ H) ↔ x.holds? = some e := by
    rw [← not_exists, h.settled_iff]
    simp [known]
  have same {o' : Options} {found' : Bool}
      (hx : x = .serving e o' found' ∨ x = .closing e o' found') : found = found' :=
    (h.made_of_holds made hx).2
  rw [holds]
  cases x with
  | vacant => simp [Tenure.owner?, Tenure.holds?]
  | leaving => simp [Tenure.owner?, Tenure.holds?]
  | serving k o' found' =>
    by_cases hk : k = e
    · subst hk
      obtain rfl := same (.inl rfl)
      cases found <;> simp [Tenure.owner?, Tenure.holds?]
    · cases found' <;> simp [Tenure.owner?, Tenure.holds?, hk]
  | closing k o' found' =>
    by_cases hk : k = e
    · subst hk
      obtain rfl := same (.inr rfl)
      cases found <;> simp [Tenure.owner?, Tenure.holds?]
    · cases found' <;> simp [Tenure.owner?, Tenure.holds?, hk]

end Succession

end EmbeddedPython
