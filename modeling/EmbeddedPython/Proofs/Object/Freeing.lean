import EmbeddedPython.Object.Memory
import Mathlib.Data.Fintype.Card
import Mathlib.Data.Fintype.EquivFin
import Mathlib.Logic.Relation

/-
  What is freed

  Letting go of what nothing holds on to comes to an end after as many rounds as
  there are objects: each round but the last frees one. What is left then is
  held by a root or by something else that is left (`alive_held`). So an object
  that no root reaches and that lies behind no ring of objects is freed, since
  following the objects that hold on to it never ends.
-/

namespace EmbeddedPython.Memory

/-- Whether one object holds on to another. -/
def RefersTo (m : Memory) (a b : Nat) : Prop :=
  a < m.cells.size ∧ Ref.cell b ∈ (m.object (.cell a)).references

/-- Whether an object is there, where `alive` says which are. -/
def IsIn (alive : Array Bool) (id : Nat) : Prop := alive.getD id false = true

/-! ## Marks -/

/-- Marks an object. -/
def mark (marks : Array Bool) : Ref → Array Bool
  | .cell id => marks.setIfInBounds id true
  | .static _ => marks

theorem size_foldl_mark (refs : List Ref) (marks : Array Bool) :
    (refs.foldl mark marks).size = marks.size := by
  induction refs generalizing marks with
  | nil => rfl
  | cons r rest ih =>
    rw [List.foldl_cons, ih]
    cases r <;> simp [mark]

/-- What is marked has been marked before or is one of the references. -/
theorem isIn_foldl_mark {refs : List Ref} {marks : Array Bool} {id : Nat}
    (h : IsIn (refs.foldl mark marks) id) : IsIn marks id ∨ Ref.cell id ∈ refs := by
  induction refs generalizing marks with
  | nil => exact .inl h
  | cons r rest ih =>
    rcases ih h with hm | hr
    · cases r with
      | static s => exact .inl hm
      | cell k =>
        by_cases hk : id = k
        · exact .inr (by simp [hk])
        · refine .inl ?_
          simpa [IsIn, mark, Array.getD_eq_getD_getElem?, Array.getElem?_setIfInBounds,
            Ne.symm hk] using hm
    · exact .inr (List.mem_cons_of_mem _ hr)

theorem mem_referencesOf {m : Memory} {alive : Nat → Bool} {r : Ref}
    (h : r ∈ m.referencesOf alive) :
    ∃ id, id < m.cells.size ∧ alive id = true ∧ r ∈ (m.object (.cell id)).references := by
  obtain ⟨id, hid, hr⟩ := List.mem_flatMap.mp h
  cases ha : alive id with
  | true =>
    rw [if_pos ha] at hr
    exact ⟨id, List.mem_range.mp hid, ha, hr⟩
  | false => simp [ha] at hr

theorem retained_eq (m : Memory) (roots : List Ref) (alive : Array Bool) :
    m.retained roots alive = Array.zipWith (fun a b => a && b) alive
      ((m.referencesOf fun id => alive.getD id false).foldl mark
        (roots.foldl mark (Array.replicate m.cells.size false))) := rfl

/-- What is retained is held by a root or by something that is there. -/
theorem isIn_retained {m : Memory} {roots : List Ref} {alive : Array Bool} {id : Nat}
    (h : IsIn (m.retained roots alive) id) :
    Ref.cell id ∈ roots ∨ ∃ k, IsIn alive k ∧ m.RefersTo k id := by
  rw [retained_eq] at h
  have marked : IsIn ((m.referencesOf fun id => alive.getD id false).foldl mark
      (roots.foldl mark (Array.replicate m.cells.size false))) id := by
    simp only [IsIn, Array.getD_eq_getD_getElem?, Array.getElem?_zipWith] at h ⊢
    split at h
    · next hb => simp_all
    · simp at h
  rcases isIn_foldl_mark marked with hroot | href
  · rcases isIn_foldl_mark hroot with hnone | hroot
    · simp only [IsIn, Array.getD_eq_getD_getElem?, Array.getElem?_replicate] at hnone
      split at hnone <;> cases hnone
    · exact .inl hroot
  · obtain ⟨k, hk, ha, hr⟩ := mem_referencesOf href
    exact .inr ⟨k, ha, hk, hr⟩

theorem size_retained {m : Memory} {roots : List Ref} {alive : Array Bool}
    (h : alive.size = m.cells.size) : (m.retained roots alive).size = alive.size := by
  rw [retained_eq]
  simp [size_foldl_mark, h]

/-! ## Rounds -/

theorem zipWith_and (a b : List Bool) (h : a.length = b.length) :
    List.zipWith (fun x y => x && y) a b = a ∨
      (List.zipWith (fun x y => x && y) a b).count true < a.count true := by
  induction a generalizing b with
  | nil => exact .inl rfl
  | cons x a ih =>
    cases b with
    | nil => cases h
    | cons y b =>
      rcases ih b (Nat.succ.inj h) with hr | hr
      · cases x <;> cases y <;> simp [hr]
      · refine .inr ?_
        cases x <;> cases y <;> simp <;> omega

/-- A round changes nothing or frees something. -/
theorem retained_cases {m : Memory} (roots : List Ref) {alive : Array Bool}
    (h : alive.size = m.cells.size) : m.retained roots alive = alive ∨
      (m.retained roots alive).toList.count true < alive.toList.count true := by
  rw [retained_eq]
  generalize hm : (m.referencesOf fun id => alive.getD id false).foldl mark
    (roots.foldl mark (Array.replicate m.cells.size false)) = marks
  have size : alive.toList.length = marks.toList.length := by
    rw [← hm]
    simp [size_foldl_mark, h]
  rcases zipWith_and alive.toList marks.toList size with hz | hz
  · exact .inl (Array.toList_inj.mp (Array.toList_zipWith.trans hz))
  · exact .inr (Array.toList_zipWith ▸ hz)

/-- After enough rounds nothing changes any more. -/
theorem settle_retained {m : Memory} (roots : List Ref) {rounds : Nat} {alive : Array Bool}
    (size : alive.size = m.cells.size) (enough : alive.toList.count true ≤ rounds) :
    m.retained roots (m.settle roots rounds alive) = m.settle roots rounds alive := by
  induction rounds generalizing alive with
  | zero =>
    rcases retained_cases roots size with h | h
    · exact h
    · exact absurd h (by omega)
  | succ rounds ih =>
    simp only [settle]
    split
    · next h => exact eq_of_beq h
    · next h =>
      rcases retained_cases roots size with hr | hr
      · exact absurd (beq_iff_eq.mpr hr) h
      · exact ih ((size_retained size).trans size) (by omega)

/-- What is alive is held by a root or by something else that is alive. -/
theorem alive_held {m : Memory} {held : List Ref} {id : Nat} (h : IsIn (m.alive held) id) :
    Ref.cell id ∈ held ++ m.ownReferences ∨ ∃ k, IsIn (m.alive held) k ∧ m.RefersTo k id := by
  have fixed : m.retained (held ++ m.ownReferences) (m.alive held) = m.alive held :=
    settle_retained _ (by simp) (by simp)
  exact isIn_retained (fixed.symm ▸ h)

/-- An object that the roots do not reach and that lies behind no ring of objects is freed. -/
theorem freed_of_acyclic {m : Memory} {held : List Ref} {id : Nat}
    (unreached : ∀ k, Ref.cell k ∈ held ++ m.ownReferences → ¬ Relation.ReflTransGen m.RefersTo k id)
    (acyclic : ∀ k, Relation.ReflTransGen m.RefersTo k id → ¬ Relation.TransGen m.RefersTo k k) :
    ¬ IsIn (m.alive held) id := by
  let above (a b : Fin m.cells.size) : Prop :=
    Relation.TransGen m.RefersTo a b ∧ Relation.ReflTransGen m.RefersTo b id
  have trans : IsTrans _ above := ⟨fun _ _ _ ab bc => ⟨ab.1.trans bc.1, bc.2⟩⟩
  have irrefl : Std.Irrefl above := ⟨fun a aa => acyclic a aa.2 aa.1⟩
  have wf : WellFounded above := Finite.wellFounded_of_trans_of_irrefl above
  -- an object that is alive has another one above it, and there is a last one
  have dead (k : Fin m.cells.size) : Relation.ReflTransGen m.RefersTo k id →
      ¬ IsIn (m.alive held) k := by
    induction k using wf.induction with
    | _ k ih =>
      intro reaches alive
      rcases alive_held alive with hroot | ⟨j, hj, hjk⟩
      · exact unreached k hroot reaches
      · exact ih ⟨j, hjk.1⟩ ⟨.single hjk, reaches⟩ (.head hjk reaches) hj
  intro alive
  rcases alive_held alive with hroot | ⟨j, hj, hjk⟩
  · exact unreached id hroot .refl
  · exact dead ⟨j, hjk.1⟩ (.single hjk) hj

end EmbeddedPython.Memory
