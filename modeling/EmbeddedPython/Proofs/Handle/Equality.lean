import EmbeddedPython.Proofs.Handle.Disposal
import EmbeddedPython.Proofs.Host.Owning
import EmbeddedPython.Proofs.Host.Status

/-
  The two ways to equality

  Handles to one object are equal without a call. The comparison of the objects
  comes to the same, since an object equals itself there too, but it first looks
  at both handles and takes the lock. So the short way agrees with the long one
  unless it overlooks something: that the second handle has been disposed of, or
  that the lock cannot be taken. It answers that the handles are equal then,
  where the long way is refused or panics.

  The order of two objects is settled by the comparisons one after the other. It
  goes the short way first, so it is what the comparisons alone come to with the
  same exception.
-/

namespace EmbeddedPython.Handle

open Op (askTruth_eq)

variable {x y : Handle} {t : ThreadId} {h : Host}

/-- Whether handles are equal without a call. -/
def isIdentical (x y : Handle) : Bool := x.isSame y && !x.disposed

/-- Whether equality without a call leaves out a check that fails: one of the second handle or one
of the lock. -/
structure Overlooks (x y : Handle) (t : ThreadId) (h : Host) : Prop where
  identical : x.isIdentical y = true
  unchecked : y.disposed = true ∨ ∃ e, h.lock.tryAcquire t = .error e

/-- Asks for comparisons in turn, up to the first that fails or holds. -/
def settle (x y : Handle) : List (Comparison × Ordering) → Op (Option Ordering)
  | [] => pure Option.none
  | (c, o) :: rest => do if ← x.richCompare y c then pure (some o) else settle x y rest

/-- The comparisons that an order is made of. -/
def orderings : List (Comparison × Ordering) := [(.eq, .eq), (.lt, .lt), (.gt, .gt)]

/-! ## The short way -/

theorem isIdentical_iff : x.isIdentical y = true ↔ x.ref = y.ref ∧ x.disposed = false := by
  simp [isIdentical, isSame]

theorem equals_identical (identical : x.isIdentical y = true) : x.equals y = pure true :=
  if_pos identical

theorem equals_different (different : x.isIdentical y = false) :
    x.equals y = x.richCompare y .eq := if_neg (ne_true_of_eq_false different)

theorem partialCompare_identical (identical : x.isIdentical y = true) :
    x.partialCompare y = pure (some .eq) := by
  rw [partialCompare, equals_identical identical]
  rfl

theorem partialCompare_different (different : x.isIdentical y = false) :
    x.partialCompare y = x.settle y orderings := by
  rw [partialCompare, equals_different different]
  rfl

/-! ## The long way of identical handles -/

/-- An object equals itself, and no program is run to say so. -/
theorem compareBool_self (r : Ref) : Eval.compareBool Machine.top .eq r r = pure true := by
  simp [Eval.compareBool]

theorem richCompare_live (liveX : x.disposed = false) (liveY : y.disposed = false)
    (c : Comparison) : x.richCompare y c =
      Op.guarded (Op.ask [x.ref, y.ref] (Eval.compareBool Machine.top c x.ref y.ref)) := by
  simp only [richCompare, Handle.live, liveX, liveY, Bool.false_eq_true, if_false, pure_bind,
    askTruth_eq]

/-- The comparison of an object with itself holds, and notes no more than that it was asked for. -/
theorem richCompare_self (identical : x.isIdentical y = true) (live : y.disposed = false)
    {taken : Lock} (took : h.lock.tryAcquire t = .ok taken) :
    ∃ (lock : Lock) (strays : List Ref) (log : List LogMessage),
      (x.richCompare y .eq).perform t h =
        (.ok true, { h with lock := lock, strays := strays, log := log }) := by
  obtain ⟨same, liveX⟩ := isIdentical_iff.mp identical
  have body : x.richCompare y .eq = Op.guarded (Op.ask [x.ref, x.ref] (pure true)) := by
    rw [richCompare_live liveX live, ← same, compareBool_self]
  rw [body, Op.guarded_eq took, Op.release_eq]
  exact ⟨_, _, _, rfl⟩

/-- What the long way comes to where the short one overlooks something. -/
def Overlooks.failure (y : Handle) (t : ThreadId) (h : Host) : Failure :=
  if y.disposed then .error .disposed
  else .panic (Lock.acquirePanic (match h.lock.tryAcquire t with
    | .ok _ => .notInitialized
    | .error e => e))

theorem richCompare_overlooked (overlooks : Overlooks x y t h) (c : Comparison) :
    (x.richCompare y c).perform t h = (.error (Overlooks.failure y t h), h) := by
  have liveX := (isIdentical_iff.mp overlooks.identical).2
  cases disposed : y.disposed with
  | true =>
    simp only [richCompare, Handle.live, liveX, disposed, Overlooks.failure, if_true]
    rfl
  | false =>
    obtain ⟨e, refused⟩ := overlooks.unchecked.resolve_left (by simp [disposed])
    simp [richCompare, Handle.live, liveX, disposed, Overlooks.failure, refused, Op.guarded,
      Op.acquire, Op.perform_bind]

/-- Identical handles go the long way to the end, unless something was overlooked. -/
theorem richCompare_identical (identical : x.isIdentical y = true) (checked : ¬ Overlooks x y t h) :
    ∃ (lock : Lock) (strays : List Ref) (log : List LogMessage),
      (x.richCompare y .eq).perform t h =
        (.ok true, { h with lock := lock, strays := strays, log := log }) := by
  have live : y.disposed = false := by
    by_contra disposed
    exact checked ⟨identical, .inl (by simpa using disposed)⟩
  cases took : h.lock.tryAcquire t with
  | ok taken => exact richCompare_self identical live took
  | error e => exact absurd ⟨identical, .inr ⟨e, took⟩⟩ checked

/-! ## Agreement -/

theorem Overlooks.of_different (different : x.isIdentical y = false) : ¬ Overlooks x y t h :=
  fun overlooks => Bool.false_ne_true (different.symm.trans overlooks.identical)

/-- The first comparison decides when it does not answer that it fails. -/
theorem settle_first {c : Comparison} {o : Ordering} {rest : List (Comparison × Ordering)}
    {r : Except Failure Bool} {k : Host} (asked : (x.richCompare y c).perform t h = (r, k))
    (decided : r ≠ .ok false) :
    (x.settle y ((c, o) :: rest)).perform t h = (r.map fun _ => some o, k) := by
  rw [settle, Op.perform_bind, asked]
  match r, decided with
  | .ok true, _ => rfl
  | .error _, _ => rfl
  | .ok false, decided => exact absurd rfl decided

/-- What is settled is the order of a comparison that was to be asked. -/
theorem mem_of_settle {cs : List (Comparison × Ordering)} {o : Ordering}
    (settled : ((x.settle y cs).perform t h).1 = .ok (some o)) : ∃ c, (c, o) ∈ cs := by
  induction cs generalizing h with
  | nil => cases settled
  | cons first rest ih =>
    rcases first with ⟨c, p⟩
    rw [settle, Op.perform_bind] at settled
    split at settled
    · next holds k _ =>
      cases holds with
      | true =>
        cases settled
        exact ⟨c, .head rest⟩
      | false =>
        obtain ⟨d, later⟩ := ih (h := k) settled
        exact ⟨d, .tail _ later⟩
    · cases settled

/-- Objects are in the order of equality just when the comparison for it holds. -/
theorem settle_eq_iff : ((x.settle y orderings).perform t h).1 = .ok (some .eq) ↔
    ((x.richCompare y .eq).perform t h).1 = .ok true := by
  rcases asked : (x.richCompare y .eq).perform t h with ⟨_ | _ | _, k⟩
  · simp [orderings, settle_first asked nofun, Except.map]
  · have later : ((x.settle y orderings).perform t h).1 =
        ((x.settle y [(.lt, .lt), (.gt, .gt)]).perform t k).1 := by
      rw [orderings, settle, Op.perform_bind, asked]
      rfl
    rw [later]
    refine ⟨fun settled => ?_, nofun⟩
    obtain ⟨c, among⟩ := mem_of_settle settled
    simp at among
  · simp [orderings, settle_first asked nofun, Except.map]

/-- Equality by the short way answers what the comparison of the objects answers just when nothing
is overlooked; the order of the objects is then what equality, `<` and `>` settle when they are asked
in turn up to the first that fails or holds, and it is that of equality just when the comparison for
it holds. Handles that are not identical are compared by the same operations on both ways. The short
way of identical handles changes nothing; the long one takes the lock and gives it back, and has
looked at both handles: it comes to the same without a call, or it is refused or panics if something
was overlooked. -/
theorem short_way_agrees_iff (x y : Handle) (t : ThreadId) (h : Host) :
    (((x.equals y).perform t h).1 = ((x.richCompare y .eq).perform t h).1 ↔
      ¬ Overlooks x y t h) ∧
    (((x.partialCompare y).perform t h).1 = ((x.settle y orderings).perform t h).1 ↔
      ¬ Overlooks x y t h) ∧
    ((((x.partialCompare y).perform t h).1 = .ok (some .eq) ↔
      ((x.richCompare y .eq).perform t h).1 = .ok true) ↔ ¬ Overlooks x y t h) ∧
    (x.isIdentical y = false →
      x.equals y = x.richCompare y .eq ∧ x.partialCompare y = x.settle y orderings) ∧
    (x.isIdentical y = true →
      (x.equals y).perform t h = (.ok true, h) ∧
      (x.partialCompare y).perform t h = (.ok (some .eq), h) ∧
      ((∃ (lock : Lock) (strays : List Ref) (log : List LogMessage),
          (x.richCompare y .eq).perform t h =
            (.ok true, { h with lock := lock, strays := strays, log := log })) ∨
        Overlooks x y t h ∧
          ∀ c, (x.richCompare y c).perform t h = (.error (Overlooks.failure y t h), h))) := by
  cases identical : x.isIdentical y with
  | false =>
    have checked : ¬ Overlooks x y t h := Overlooks.of_different identical
    simp only [equals_different identical, partialCompare_different identical, checked,
      settle_eq_iff, not_false_eq_true, true_and]
    exact ⟨fun _ => trivial, nofun⟩
  | true =>
    simp only [equals_identical identical, partialCompare_identical identical, Op.perform_pure]
    by_cases overlooks : Overlooks x y t h
    · have asked := richCompare_overlooked overlooks
      simp [asked, settle_first (asked .eq) nofun, orderings, overlooks, Except.map]
    · obtain ⟨lock, strays, log, asked⟩ := richCompare_identical identical overlooks
      refine ⟨?_, ?_, ?_, nofun, fun _ => ⟨trivial, trivial, .inl ⟨lock, strays, log, asked⟩⟩⟩
      all_goals simp [asked, settle_first asked nofun, orderings, overlooks, Except.map]

/-- A number, and a second handle to it that has been disposed of: whether they are equal, and what
the comparison of the objects says. -/
def compareWithDisposed : Op (Except Error Bool × Except Error Bool) := do
  let x ← (HostValue.int 1000).toHandle
  let y ← (← x.clone).dispose
  pure (← Op.attempt (x.equals y), ← Op.attempt (x.richCompare y .eq))

theorem disposed_alias_is_equal :
    (compareWithDisposed.perform 0 Host.fresh).1 = .ok (.ok true, .error .disposed) := by
  decide +kernel

end EmbeddedPython.Handle
