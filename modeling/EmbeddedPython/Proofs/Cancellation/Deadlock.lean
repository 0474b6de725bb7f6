import EmbeddedPython.Proofs.Cancellation.Account
import Mathlib.Logic.Relation

/-
  Callbacks that own registrations

  A callback that is discarded gives up the registrations that it owns while the
  list of its own signal is still locked. So giving up a registration walks
  through the callbacks that own one another, and every list on the way stays
  locked until the walk is back. It returns when no two of the registrations on
  a way are on one signal, and has then taken out the callbacks that it came by
  and nothing else. Where two of them are, the thread waits for itself.
-/

namespace EmbeddedPython.Cancellation

open Relation

variable {κ : Type} {s s' s'' : Signals κ} {r q x y : Registration} {rs gone gone' : List Registration}
  {locked : List Nat} {i j : Nat}

/-! ## Who owns what -/

/-- The registrations that are given up with the callback of a registration. -/
def owned (s : Signals κ) (r : Registration) : List Registration :=
  match r.signal with
  | none => []
  | some i => ((s.getD i Signal.fresh).withdraw r.id).1.flatMap (·.owns)

/-- Whether the callback of a registration owns another one. -/
def Owns (s : Signals κ) (r q : Registration) : Prop := q ∈ owned s r

/-- Whether two registrations are on one signal, and one of them is given up while the callback of
the other is being discarded, when `r` is given up. -/
def Entangled (s : Signals κ) (r : Registration) : Prop :=
  ∃ p q, ReflTransGen (Owns s) r p ∧ TransGen (Owns s) p q ∧ p.signal = q.signal ∧ p.signal ≠ none

/-- Whether the registrations of a list can be given up one after the other as things are: each is
owned once at most, and those of the list by nobody else. -/
structure Unshared (s : Signals κ) (rs : List Registration) : Prop where
  owner : ∀ x x' y, Owns s x y → Owns s x' y → y.signal ≠ none → x = x'
  once : ∀ x y, y.signal ≠ none → (owned s x).count y ≤ 1
  free : ∀ q ∈ rs, q.signal ≠ none → ∀ x, ¬ Owns s x q
  apart : ∀ q, q.signal ≠ none → rs.count q ≤ 1

theorem Owns.signal (h : Owns s r q) : r.signal ≠ none := by
  intro hr
  rw [Owns, owned, hr] at h
  cases h

/-! ## What is left -/

/-- Whether these are the same signals but for the callbacks of some registrations. -/
structure Lacks (gone : List Registration) (s s' : Signals κ) : Prop where
  size : s'.size = s.size
  signal : ∀ i, s'.getD i Signal.fresh = { s.getD i Signal.fresh with
    waiting := (s.getD i Signal.fresh).waiting.filter fun w => decide (⟨some i, w.id⟩ ∉ gone) }

theorem Lacks.refl (s : Signals κ) : Lacks [] s s := by
  refine ⟨rfl, fun i => ?_⟩
  have all : (s.getD i Signal.fresh).waiting.filter
      (fun w => decide ((⟨some i, w.id⟩ : Registration) ∉ [])) = (s.getD i Signal.fresh).waiting :=
    List.filter_eq_self.mpr fun w _ => by simp
  rw [all]

theorem Lacks.strike (s : Signals κ) (r : Registration) : Lacks [r] s (strike s r) := by
  refine ⟨size_strike s r, fun i => ?_⟩
  have same : (s.getD i Signal.fresh).waiting.filter (fun w => r != ⟨some i, w.id⟩) =
      (s.getD i Signal.fresh).waiting.filter (fun w => decide (⟨some i, w.id⟩ ∉ [r])) :=
    List.filter_congr fun w _ => by
      rw [Bool.eq_iff_iff, bne_iff_ne, decide_eq_true_iff, List.mem_singleton, ne_comm]
  rw [getD_strike, same]

theorem Lacks.trans (h : Lacks gone s s') (h' : Lacks gone' s' s'') :
    Lacks (gone ++ gone') s s'' := by
  refine ⟨h'.size.trans h.size, fun i => ?_⟩
  rw [h'.signal, h.signal]
  simp only [List.filter_filter, List.mem_append, not_or, Bool.decide_and]
  congr 1
  exact List.filter_congr fun w _ => Bool.and_comm _ _

/-- What is left of a callback owns what it has owned. -/
theorem Lacks.owned (h : Lacks gone s s') (x : Registration) :
    owned s' x = if x ∈ gone then [] else owned s x := by
  obtain ⟨i?, id⟩ := x
  cases i? with
  | none => simp [Cancellation.owned]
  | some i =>
    simp only [Cancellation.owned, Signal.withdraw, h.signal, List.filter_filter]
    split
    · next hx =>
      rw [List.flatMap_eq_nil_iff]
      intro w hw
      obtain ⟨-, hw⟩ := List.mem_filter.mp hw
      rw [Bool.and_eq_true, beq_iff_eq, decide_eq_true_iff] at hw
      exact absurd (hw.1 ▸ hx) hw.2
    · next hx =>
      congr 1
      refine List.filter_congr fun w _ => ?_
      by_cases hw : w.id = id
      · simp [hw, hx]
      · simp [hw]

theorem Lacks.owns_iff (h : Lacks gone s s') : Owns s' x y ↔ x ∉ gone ∧ Owns s x y := by
  rw [Owns, h.owned, Owns]
  split
  · next hx => simp [hx]
  · next hx => simp [hx]

theorem Lacks.way (h : Lacks gone s s') (hw : ReflTransGen (Owns s') x y) :
    ReflTransGen (Owns s) x y :=
  ReflTransGen.mono (fun _ _ step => (h.owns_iff.mp step).2) _ _ hw

theorem Lacks.longWay (h : Lacks gone s s') (hw : TransGen (Owns s') x y) : TransGen (Owns s) x y :=
  TransGen.mono (fun _ _ step => (h.owns_iff.mp step).2) _ _ hw

/-! ## Giving up one after the other -/

/-- Whether giving up registrations, with some lists locked, comes by these registrations and leaves
those signals. -/
inductive GivesUp : List Nat → List Registration → Signals κ → List Registration → Signals κ → Prop
  | nil (locked : List Nat) (s : Signals κ) : GivesUp locked [] s [] s
  | nothing {locked : List Nat} {r : Registration} {rs gone : List Registration} {s s' : Signals κ}
      (hr : r.signal = none) (rest : GivesUp locked rs s gone s') :
      GivesUp locked (r :: rs) s (r :: gone) s'
  | discard {locked : List Nat} {r : Registration} {rs inner gone : List Registration}
      {s s' s'' : Signals κ} {i : Nat} (hr : r.signal = some i) (unlocked : i ∉ locked)
      (inside : GivesUp (i :: locked) (owned s r) (strike s r) inner s')
      (rest : GivesUp locked rs s' gone s'') : GivesUp locked (r :: rs) s (r :: inner ++ gone) s''

/-- Whether giving up registrations, with some lists locked, comes to wait for one of these lists or
for one that it has locked itself. -/
inductive Blocks : List Nat → List Registration → Signals κ → Nat → Prop
  | here {locked : List Nat} {r : Registration} {s : Signals κ} {i : Nat} (hr : r.signal = some i)
      (held : i ∈ locked) (rs : List Registration) : Blocks locked (r :: rs) s i
  | inside {locked : List Nat} {r : Registration} {s : Signals κ} {i j : Nat}
      (hr : r.signal = some i) (h : Blocks (i :: locked) (owned s r) (strike s r) j)
      (rs : List Registration) : Blocks locked (r :: rs) s j
  | later {locked : List Nat} {r : Registration} {rs gone : List Registration} {s s' : Signals κ}
      {j : Nat} (first : GivesUp locked [r] s gone s') (h : Blocks locked rs s' j) :
      Blocks locked (r :: rs) s j

/-! ## Fuel -/

/-- How many registrations there are to give up on a signal, those that callbacks own included. -/
def Signal.stock (s : Signal κ) : Nat := (s.waiting.map fun w => w.owns.length + 1).sum

def stock (s : Signals κ) : Nat := (s.toList.map Signal.stock).sum

theorem withdrawalBound_eq (s : Signals κ) : withdrawalBound s = stock s + 2 := by
  have sum (xs : List (Signal κ)) (n : Nat) : xs.foldl (fun n s => n +
      (s.waiting.map fun w => w.owns.length + 1).foldr (· + ·) 0) n =
        (xs.map Signal.stock).sum + n := by
    induction xs generalizing n with
    | nil => simp
    | cons x xs ih =>
      rw [List.foldl_cons, ih, List.map_cons, List.sum_cons, Signal.stock, List.sum]
      omega
  rw [withdrawalBound, ← Array.foldl_toList, sum, stock]

/-- What a callback owns counts for what it has counted for. -/
theorem Signal.stock_withdraw (s : Signal κ) (id : Nat) :
    ((s.withdraw id).1.flatMap (·.owns)).length + (s.withdraw id).2.stock ≤ s.stock := by
  obtain ⟨raised, nextId, waiting⟩ := s
  simp only [withdraw, stock]
  induction waiting with
  | nil => simp
  | cons w ws ih =>
    by_cases hw : w.id = id
    · simp only [List.filter_cons, hw, beq_self_eq_true, bne_self_eq_false, if_true,
        Bool.false_eq_true, if_false, List.flatMap_cons, List.length_append, List.map_cons,
        List.sum_cons]
      omega
    · simp only [List.filter_cons, beq_eq_false_iff_ne.mpr hw, bne_iff_ne.mpr hw, if_true,
        Bool.false_eq_true, if_false, List.map_cons, List.sum_cons]
      omega

theorem stock_strike (s : Signals κ) (r : Registration) :
    (owned s r).length + stock (strike s r) ≤ stock s := by
  cases hr : r.signal with
  | none => simp [owned, strike, hr]
  | some i =>
    simp only [owned, strike, hr]
    have fewer := (s.getD i Signal.fresh).stock_withdraw r.id
    by_cases hi : i < s.size
    · have put := sum_set Signal.stock s.toList (i := i) hi ((s.getD i Signal.fresh).withdraw r.id).2
      have here : s.getD i Signal.fresh = s.toList[i] := by simp [Array.getD, hi]
      rw [← here] at put
      rw [stock, stock, Array.toList_setIfInBounds]
      omega
    · have same : s.setIfInBounds i ((s.getD i Signal.fresh).withdraw r.id).2 = s := by
        simp [Array.setIfInBounds, hi]
      rw [same, getD_of_size_le (Nat.le_of_not_lt hi)]
      simp [Signal.withdraw, Signal.fresh]

/-- Giving up a registration, told by what it owns. -/
theorem withdrawAll_cons {fuel : Nat} (hr : r.signal = some i) (unlocked : i ∉ locked) :
    withdrawAll (fuel + 1) locked (r :: rs) s =
      match withdrawAll fuel (i :: locked) (owned s r) (strike s r) with
      | .deadlock j => .deadlock j
      | .done s' => withdrawAll fuel locked rs s' := by
  have r_owned : owned s r = ((s.getD i Signal.fresh).withdraw r.id).1.flatMap (·.owns) := by
    rw [owned, hr]
  have r_struck : strike s r = s.setIfInBounds i ((s.getD i Signal.fresh).withdraw r.id).2 := by
    rw [strike, hr]
  rw [withdrawAll, hr, r_owned, r_struck]
  exact if_neg unlocked

theorem stock_withdrawAll {fuel : Nat} (h : withdrawAll fuel locked rs s = .done s') :
    stock s' ≤ stock s := by
  induction fuel generalizing locked rs s s' with
  | zero =>
    cases h
    exact Nat.le_refl _
  | succ fuel ih =>
    cases rs with
    | nil =>
      cases h
      exact Nat.le_refl _
    | cons r rs =>
      cases hr : r.signal with
      | none =>
        simp only [withdrawAll, hr] at h
        exact ih h
      | some i =>
        by_cases held : i ∈ locked
        · simp [withdrawAll, hr, held] at h
        · rw [withdrawAll_cons hr held] at h
          split at h
          · cases h
          · next inside =>
            have := stock_strike s r
            have := ih inside
            have := ih h
            omega

/-- With steps enough, all registrations are given up, or the thread waits for itself. -/
theorem withdrawAll_comes (locked : List Nat) (rs : List Registration) (s : Signals κ) {fuel : Nat}
    (enough : rs.length + stock s < fuel) :
    (∃ gone s', withdrawAll fuel locked rs s = .done s' ∧ GivesUp locked rs s gone s') ∨
    ∃ j, withdrawAll fuel locked rs s = .deadlock j ∧ Blocks locked rs s j := by
  induction fuel generalizing locked rs s with
  | zero => exact absurd enough (Nat.not_lt_zero _)
  | succ fuel ih =>
    cases rs with
    | nil => exact .inl ⟨[], s, rfl, .nil locked s⟩
    | cons r rs =>
      rw [List.length_cons] at enough
      cases hr : r.signal with
      | none =>
        simp only [withdrawAll, hr]
        rcases ih locked rs s (by omega) with
          ⟨gone, s', hw, h⟩ | ⟨j, hw, h⟩
        · exact .inl ⟨r :: gone, s', hw, .nothing hr h⟩
        · exact .inr ⟨j, hw, .later (.nothing hr (.nil locked s)) h⟩
      | some i =>
        by_cases held : i ∈ locked
        · exact .inr ⟨i, by simp [withdrawAll, hr, held], .here hr held rs⟩
        · rw [withdrawAll_cons hr held]
          have less := stock_strike s r
          rcases ih (i :: locked) (owned s r) (strike s r) (by omega) with
            ⟨inner, s', hw, inside⟩ | ⟨j, hw, h⟩
          · have := stock_withdrawAll hw
            rw [hw]
            rcases ih locked rs s' (by omega) with
              ⟨gone, s'', hw', rest⟩ | ⟨j, hw', h⟩
            · exact .inl ⟨_, s'', hw', .discard hr held inside rest⟩
            · exact .inr ⟨j, hw', .later (.discard hr held inside (.nil locked s')) h⟩
          · rw [hw]
            exact .inr ⟨j, rfl, .inside hr h rs⟩

/-! ## What is given up -/

namespace GivesUp

theorem lacks (h : GivesUp locked rs s gone s') : Lacks gone s s' := by
  induction h with
  | nil locked s => exact .refl s
  | @nothing locked r rs gone s s' hr rest ih =>
    refine ⟨ih.size, fun i => ?_⟩
    have same : (s.getD i Signal.fresh).waiting.filter (fun w => decide (⟨some i, w.id⟩ ∉ gone)) =
        (s.getD i Signal.fresh).waiting.filter (fun w => decide (⟨some i, w.id⟩ ∉ r :: gone)) :=
      List.filter_congr fun w _ => by
        have other : (⟨some i, w.id⟩ : Registration) ≠ r := fun h => by
          rw [← h] at hr
          cases hr
        simp [other]
    rw [ih.signal, same]
  | @discard _ r _ _ _ s _ _ _ _ _ inside rest ih ih' => exact ((Lacks.strike s r).trans ih).trans ih'

theorem subset (h : GivesUp locked rs s gone s') : rs ⊆ gone := by
  induction h with
  | nil => exact List.Subset.refl []
  | nothing _ _ ih => exact List.cons_subset_cons _ ih
  | discard _ _ _ _ _ ih =>
    exact List.cons_subset.mpr ⟨List.mem_cons_self, fun x hx => List.mem_append_right _ (ih hx)⟩

theorem reached (h : GivesUp locked rs s gone s') (hx : x ∈ gone) :
    ∃ q ∈ rs, ReflTransGen (Owns s) q x := by
  induction h with
  | nil => cases hx
  | @nothing _ r _ _ _ _ _ _ ih =>
    rcases List.mem_cons.mp hx with rfl | hx
    · exact ⟨x, List.mem_cons_self, .refl⟩
    · obtain ⟨q, hq, way⟩ := ih hx
      exact ⟨q, List.mem_cons_of_mem _ hq, way⟩
  | @discard _ r rs _ _ s s' _ _ _ _ inside _ ih ih' =>
    rcases List.mem_append.mp hx with hx | hx
    · refine ⟨r, List.mem_cons_self, ?_⟩
      rcases List.mem_cons.mp hx with rfl | hx
      · exact .refl
      · obtain ⟨q, hq, way⟩ := ih hx
        exact .head hq ((Lacks.strike s r).way way)
    · obtain ⟨q, hq, way⟩ := ih' hx
      exact ⟨q, List.mem_cons_of_mem _ hq, ((Lacks.strike s r).trans inside.lacks).way way⟩

theorem closed (h : GivesUp locked rs s gone s') (hx : x ∈ gone) (hy : Owns s x y) : y ∈ gone := by
  induction h with
  | nil => cases hx
  | nothing hr _ ih =>
    rcases List.mem_cons.mp hx with rfl | hx
    · exact absurd hr hy.signal
    · exact List.mem_cons_of_mem _ (ih hx hy)
  | @discard _ r _ inner gone s s' _ _ _ _ inside _ ih ih' =>
    have within (hx : x ∈ r :: inner) : y ∈ r :: inner ++ gone := by
      refine List.mem_append_left _ (List.mem_cons_of_mem r ?_)
      by_cases hr : x = r
      · subst hr
        exact inside.subset hy
      · refine ih ((List.mem_cons.mp hx).resolve_left hr) ?_
        exact (Lacks.strike s r).owns_iff.mpr ⟨by simpa using hr, hy⟩
    by_cases early : x ∈ r :: inner
    · exact within early
    · have hx := (List.mem_append.mp hx).resolve_left early
      refine List.mem_append_right _ (ih' hx ?_)
      exact ((Lacks.strike s r).trans inside.lacks).owns_iff.mpr ⟨early, hy⟩

/-- What is given up is what can be come by from the registrations of the list. -/
theorem mem_iff (h : GivesUp locked rs s gone s') :
    x ∈ gone ↔ ∃ q ∈ rs, ReflTransGen (Owns s) q x := by
  refine ⟨h.reached, ?_⟩
  rintro ⟨q, hq, way⟩
  induction way with
  | refl => exact h.subset hq
  | tail _ step ih => exact h.closed ih step

end GivesUp

/-! ## When a thread waits for itself -/

/-- Wherever a thread waits for a list that it has locked, there is a way from one registration on
that signal to another. -/
theorem Blocks.way (h : Blocks locked rs s j) :
    (∃ q ∈ rs, ∃ p, ReflTransGen (Owns s) q p ∧ p.signal = some j ∧ j ∈ locked) ∨
    ∃ q ∈ rs, ∃ p p', ReflTransGen (Owns s) q p ∧ TransGen (Owns s) p p' ∧ p.signal = some j ∧
      p'.signal = some j := by
  induction h with
  | @here locked r s i hr held rs => exact .inl ⟨r, List.mem_cons_self, r, .refl, hr, held⟩
  | @inside locked r s i j hr _ rs ih =>
    have lacks := Lacks.strike s r
    rcases ih with ⟨q, hq, p, way, hp, held⟩ | ⟨q, hq, p, p', way, long, hp, hp'⟩
    · have way := lacks.way way
      rcases List.mem_cons.mp held with rfl | held
      · exact .inr ⟨r, List.mem_cons_self, r, p, .refl, .head' hq way, hr, hp⟩
      · exact .inl ⟨r, List.mem_cons_self, p, .head hq way, hp, held⟩
    · exact .inr ⟨r, List.mem_cons_self, p, p', .head hq (lacks.way way), lacks.longWay long, hp, hp'⟩
  | @later locked r rs gone s s' j first _ ih =>
    have lacks := first.lacks
    rcases ih with ⟨q, hq, p, way, hp, held⟩ | ⟨q, hq, p, p', way, long, hp, hp'⟩
    · exact .inl ⟨q, List.mem_cons_of_mem _ hq, p, lacks.way way, hp, held⟩
    · exact .inr ⟨q, List.mem_cons_of_mem _ hq, p, p', lacks.way way, lacks.longWay long, hp, hp'⟩

/-! ## When a thread does not wait for itself -/

namespace Unshared

/-- What is not owned by two callbacks is not owned by two after some have gone. -/
theorem lacks (h : Unshared s rs) (hl : Lacks gone s s') {rs' : List Registration}
    (free : ∀ q ∈ rs', q.signal ≠ none → ∀ x, ¬ Owns s' x q)
    (apart : ∀ q, q.signal ≠ none → rs'.count q ≤ 1) : Unshared s' rs' where
  owner x x' y hx hx' := h.owner x x' y (hl.owns_iff.mp hx).2 (hl.owns_iff.mp hx').2
  once x y hy := by
    rw [hl.owned]
    split
    · exact Nat.zero_le 1
    · exact h.once x y hy
  free := free
  apart := apart

theorem inside (h : Unshared s (r :: rs)) : Unshared (strike s r) (owned s r) := by
  refine h.lacks (.strike s r) (fun q hq real x hx => ?_) fun q => h.once r q
  obtain ⟨hr, hx⟩ := (Lacks.strike s r).owns_iff.mp hx
  exact hr (List.mem_singleton.mpr (h.owner x r q hx hq real))

theorem tail (h : Unshared s (r :: rs)) (hl : Lacks gone s s') : Unshared s' rs :=
  h.lacks hl (fun q hq real x hx => h.free q (List.mem_cons_of_mem r hq) real x (hl.owns_iff.mp hx).2)
    fun q real => Nat.le_trans List.count_le_count_cons (h.apart q real)

/-- A callback is come by from one registration of the list only. -/
theorem root (h : Unshared s rs) (hr : r ∈ rs) (hq : q ∈ rs) (way : ReflTransGen (Owns s) r x)
    (way' : ReflTransGen (Owns s) q x) (real : x.signal ≠ none) : r = q := by
  induction way with
  | refl =>
    rcases way'.cases_tail with rfl | ⟨y, -, step⟩
    · rfl
    · exact absurd step (h.free r hr real y)
  | tail _ step ih =>
    rcases way'.cases_tail with rfl | ⟨y, way'', step'⟩
    · exact absurd step (h.free _ hq real _)
    · obtain rfl := h.owner _ _ _ step step' real
      exact ih way'' step.signal

end Unshared

/-- What can be come by without the callbacks that have gone is still there to come by. -/
theorem Lacks.stays (h : Lacks gone s s') (way : ReflTransGen (Owns s) q x)
    (apart : ∀ y, ReflTransGen (Owns s) q y → y.signal ≠ none → y ∉ gone) :
    ReflTransGen (Owns s') q x := by
  induction way with
  | refl => exact .refl
  | tail way step ih => exact ih.tail (h.owns_iff.mpr ⟨apart _ way step.signal, step⟩)

theorem Lacks.staysLong (h : Lacks gone s s') (hp : ReflTransGen (Owns s) q x)
    (way : TransGen (Owns s) x y)
    (apart : ∀ y, ReflTransGen (Owns s) q y → y.signal ≠ none → y ∉ gone) :
    TransGen (Owns s') x y := by
  induction way with
  | single step => exact .single (h.owns_iff.mpr ⟨apart _ hp step.signal, step⟩)
  | tail way step ih =>
    exact ih.tail (h.owns_iff.mpr ⟨apart _ (hp.trans way.to_reflTransGen) step.signal, step⟩)

/-- Where everything has been given up, no list was wanted that was locked, and none twice. -/
theorem GivesUp.untangled (h : GivesUp locked rs s gone s') (unshared : Unshared s rs)
    (hq : q ∈ rs) (way : ReflTransGen (Owns s) q x) (hx : x.signal = some i) :
    i ∉ locked ∧ ∀ y, TransGen (Owns s) x y → y.signal ≠ some i := by
  induction h generalizing q x i with
  | nil => cases hq
  | @nothing locked r rs gone s s' hr _ ih =>
    rcases List.mem_cons.mp hq with rfl | hq
    · rcases way.cases_head with rfl | ⟨y, step, -⟩
      · rw [hr] at hx
        cases hx
      · exact absurd hr step.signal
    · exact ih (unshared.tail (.refl s)) hq way hx
  | @discard locked r rs inner gone s s' _ j hr unlocked inside _ ih ih' =>
    have strike := Lacks.strike s r
    have alone {y : Registration} (step : Owns s r y) (z : Registration)
        (way : ReflTransGen (Owns s) y z) (real : z.signal ≠ none) : z ∉ [r] := by
      rintro hz
      obtain rfl := List.mem_singleton.mp hz
      obtain ⟨w, -, step⟩ : ∃ w, ReflTransGen (Owns s) y w ∧ Owns s w z := by
        rcases way.cases_tail with rfl | ⟨w, way, step⟩
        · exact ⟨z, .refl, step⟩
        · exact ⟨w, way, step⟩
      exact unshared.free z List.mem_cons_self real w step
    rcases List.mem_cons.mp hq with rfl | hq
    · -- a way that begins with the registration goes on inside
      have below {y z : Registration} {k : Nat} (step : Owns s q y)
          (way : ReflTransGen (Owns s) y z) (hz : z.signal = some k) :
          k ∉ j :: locked ∧ ∀ v, TransGen (Owns s) z v → v.signal ≠ some k := by
        obtain ⟨out, apart⟩ := ih unshared.inside step (strike.stays way (alone step)) hz
        exact ⟨out, fun v long => apart v (strike.staysLong way long (alone step))⟩
      rcases way.cases_head with rfl | ⟨y, step, way⟩
      · obtain rfl := Option.some.inj (hr.symm.trans hx)
        refine ⟨unlocked, fun v long hv => ?_⟩
        obtain ⟨y, step, way⟩ := TransGen.head'_iff.mp long
        exact (below step way hv).1 List.mem_cons_self
      · obtain ⟨out, apart⟩ := below step way hx
        exact ⟨fun held => out (List.mem_cons_of_mem j held), apart⟩
    · -- a way that begins with a later one comes by nothing that has gone
      have lacks := strike.trans inside.lacks
      have apart (y : Registration) (way : ReflTransGen (Owns s) q y) (real : y.signal ≠ none) :
          y ∉ [r] ++ inner := by
        intro hy
        have from_r : ReflTransGen (Owns s) r y := by
          rcases List.mem_cons.mp hy with rfl | hy
          · exact .refl
          · obtain ⟨z, step, way⟩ := inside.reached hy
            exact .head step (strike.way way)
        obtain rfl := unshared.root List.mem_cons_self (List.mem_cons_of_mem r hq) from_r way real
        have once := unshared.apart r (by rw [hr]; nofun)
        rw [List.count_cons_self] at once
        have := List.count_pos_iff.mpr hq
        omega
      obtain ⟨out, twice⟩ := ih' (unshared.tail lacks) hq (lacks.stays way apart) hx
      exact ⟨out, fun v long => twice v (lacks.staysLong way long apart)⟩

/-! ## Giving up a registration -/

/-- What comes of giving up a registration. -/
structure Returns (s : Signals κ) (r : Registration) : Prop where
  /-- it returns if no two registrations on a way are on one signal -/
  returns : ¬ Entangled s r → ∃ s', withdraw r s = .done s'
  /-- otherwise the thread waits for a list that it has locked, if no registration is shared -/
  blocks : Unshared s [r] → Entangled s r → ∃ i, withdraw r s = .deadlock i
  /-- whenever it returns, just the callbacks have gone that can be come by, its own and those of
  registrations that callbacks own which have gone -/
  removes : ∀ s', withdraw r s = .done s' → ∃ gone, Lacks gone s s' ∧
    ∀ q, q ∈ gone ↔ ReflTransGen (Owns s) r q

theorem withdraw_comes (s : Signals κ) (r : Registration) :
    (∃ gone s', withdraw r s = .done s' ∧ GivesUp [] [r] s gone s') ∨
    ∃ i, withdraw r s = .deadlock i ∧ Blocks [] [r] s i := by
  refine withdrawAll_comes [] [r] s ?_
  rw [withdrawalBound_eq, List.length_singleton]
  omega

theorem Blocks.entangled (h : Blocks [] [r] s i) : Entangled s r := by
  rcases h.way with ⟨_, _, _, _, _, held⟩ | ⟨q, hq, p, p', way, long, hp, hp'⟩
  · cases held
  · obtain rfl := List.mem_singleton.mp hq
    exact ⟨p, p', way, long, hp.trans hp'.symm, by rw [hp]; nofun⟩

theorem GivesUp.not_entangled (h : GivesUp [] [r] s gone s') (unshared : Unshared s [r]) :
    ¬ Entangled s r := by
  rintro ⟨p, p', way, long, same, real⟩
  obtain ⟨i, hi⟩ := Option.ne_none_iff_exists'.mp real
  exact (h.untangled unshared List.mem_cons_self way hi).2 p' long (same.symm.trans hi)

/-- Giving up a registration returns unless its callback owns, at whatever remove, a registration
whose list is locked already, and takes out what it comes by. -/
theorem giving_up_returns (s : Signals κ) (r : Registration) : Returns s r := by
  rcases withdraw_comes s r with ⟨gone, s', hw, h⟩ | ⟨i, hw, h⟩
  · refine ⟨fun _ => ⟨s', hw⟩, fun unshared tangled => ?_, fun s'' hw' => ?_⟩
    · exact absurd tangled (h.not_entangled unshared)
    · obtain rfl := Withdrawal.done.inj (hw.symm.trans hw')
      refine ⟨gone, h.lacks, fun q => h.mem_iff.trans ?_⟩
      simp only [List.mem_singleton, exists_eq_left]
  · refine ⟨fun plain => absurd h.entangled plain, fun _ _ => ⟨i, hw⟩, fun s' hw' => ?_⟩
    rw [hw] at hw'
    cases hw'

/-- The second callback on a signal owns the registration of the first. To give up its registration
is to wait for ever. -/
theorem owner_of_sibling_deadlocks : ¬ ∀ (s : Signals Unit) (r : Registration),
    ∃ s', withdraw r s = .done s' := by
  intro returns
  let first := (Signal.fresh.register () []).2
  let both := (first.register () [⟨some 0, 1⟩]).2
  obtain ⟨s', h⟩ := returns #[both] ⟨some 0, 2⟩
  have waits : withdraw ⟨some 0, 2⟩ #[both] = .deadlock 0 := rfl
  rw [waits] at h
  cases h

end EmbeddedPython.Cancellation
