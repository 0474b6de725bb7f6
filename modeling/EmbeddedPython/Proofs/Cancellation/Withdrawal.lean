import EmbeddedPython.Cancellation.Signal

/-
  Registering and giving up

  A signal that has been raised takes no callback. A callback that owns no
  registrations is taken out of the list that it waits in when its registration
  is given up, and nothing else happens to any signal.
-/

namespace EmbeddedPython.Cancellation

variable {κ : Type}

namespace Signal

/-- Nothing waits on a signal that has been raised, so raising it takes everything that waits. -/
theorem raise_eq {s : Signal κ} (h : s.raised = true → s.waiting = []) :
    s.raise = (s.waiting, { s with raised := true, waiting := [] }) := by
  obtain ⟨_ | _, nextId, waiting⟩ := s
  · rfl
  · cases h rfl
    rfl

variable (s : Signal κ) (callback : κ) (owns : List Registration)

@[simp] theorem register_nextId : (s.register callback owns).2.nextId = s.nextId + 1 := by
  rw [register]
  split <;> rfl

@[simp] theorem register_raised : (s.register callback owns).2.raised = s.raised := by
  rw [register]
  split <;> rfl

variable {s}

theorem register_of_raised (h : s.raised = true) :
    s.register callback owns = (none, { s with nextId := s.nextId + 1 }) :=
  if_pos h

theorem register_of_unraised (h : s.raised = false) :
    s.register callback owns = (some s.nextId, { s with
      nextId := s.nextId + 1
      waiting := s.waiting ++ [⟨s.nextId, callback, owns⟩] }) :=
  if_neg (by rw [h]; exact Bool.false_ne_true)

end Signal

/-- The signals after a registration has been given up. -/
def without (signals : Signals κ) (r : Registration) : Signals κ :=
  match withdraw r signals with
  | .done signals => signals
  | .deadlock _ => signals

theorem two_le_withdrawalBound (signals : Signals κ) : 2 ≤ withdrawalBound signals := by
  have grows (xs : List (Signal κ)) (m : Nat) : m ≤ xs.foldl
      (fun n s => n + (s.waiting.map fun w => w.owns.length + 1).foldr (· + ·) 0) m := by
    induction xs generalizing m with
    | nil => exact Nat.le_refl m
    | cons x xs ih => exact Nat.le_trans (Nat.le_add_right m _) (ih _)
  rw [withdrawalBound, ← Array.foldl_toList]
  exact grows signals.toList 2

/-- Giving up nothing changes nothing. -/
theorem without_of_none (signals : Signals κ) {r : Registration} (h : r.signal = none) :
    without signals r = signals := by
  obtain ⟨n, hn⟩ := Nat.exists_eq_add_of_le (two_le_withdrawalBound signals)
  rw [without, withdraw, hn, Nat.add_comm]
  simp [withdrawAll, h]

/-- A callback that owns no registrations is taken out of its list, and nothing else happens. -/
theorem without_of_some (signals : Signals κ) {r : Registration} {i : Nat} (h : r.signal = some i)
    (plain : ∀ w ∈ (signals.getD i Signal.fresh).waiting, w.owns = []) :
    without signals r =
      signals.setIfInBounds i ((signals.getD i Signal.fresh).withdraw r.id).2 := by
  obtain ⟨n, hn⟩ := Nat.exists_eq_add_of_le (two_le_withdrawalBound signals)
  have owns : ((signals.getD i Signal.fresh).waiting.filter (·.id == r.id)).flatMap (·.owns) =
      [] := by
    rw [List.flatMap_eq_nil_iff]
    exact fun w hw => plain w (List.mem_filter.mp hw).1
  rw [without, withdraw, hn, Nat.add_comm]
  simp only [withdrawAll, h, List.not_mem_nil, if_false, Signal.withdraw, owns]

theorem getD_setIfInBounds (signals : Signals κ) (i : Nat) (s : Signal κ) (j : Nat) :
    (signals.setIfInBounds i s).getD j Signal.fresh =
      if j = i ∧ i < signals.size then s else signals.getD j Signal.fresh := by
  simp only [Array.getD_eq_getD_getElem?, Array.getElem?_setIfInBounds]
  by_cases hj : i = j
  · subst hj
    by_cases hi : i < signals.size <;> simp [hi]
  · simp [hj, Ne.symm hj]

/-- A signal that is not there is as good as a new one. -/
theorem getD_of_size_le {signals : Signals κ} {i : Nat} (h : signals.size ≤ i) :
    signals.getD i Signal.fresh = Signal.fresh := by
  simp [Array.getD, Nat.not_lt.mpr h]

/-- The signals without the callback of a registration. -/
def strike (signals : Signals κ) (r : Registration) : Signals κ :=
  match r.signal with
  | none => signals
  | some i => signals.setIfInBounds i ((signals.getD i Signal.fresh).withdraw r.id).2

theorem size_strike (signals : Signals κ) (r : Registration) :
    (strike signals r).size = signals.size := by
  rw [strike]
  split
  · rfl
  · exact Array.size_setIfInBounds

/-- What waits on a signal without the callback of a registration. -/
theorem getD_strike (signals : Signals κ) (r : Registration) (i : Nat) :
    (strike signals r).getD i Signal.fresh = { signals.getD i Signal.fresh with
      waiting := (signals.getD i Signal.fresh).waiting.filter fun w => r != ⟨some i, w.id⟩ } := by
  obtain ⟨j?, id⟩ := r
  cases j? with
  | none =>
    have all : (signals.getD i Signal.fresh).waiting.filter (fun w =>
        (⟨none, id⟩ : Registration) != ⟨some i, w.id⟩) = (signals.getD i Signal.fresh).waiting :=
      List.filter_eq_self.mpr fun w _ => by simp
    rw [all, strike]
  | some j =>
    rw [strike, getD_setIfInBounds]
    by_cases hi : i = j
    · subst hi
      have here : (signals.getD i Signal.fresh).waiting.filter (fun w =>
          (⟨some i, id⟩ : Registration) != ⟨some i, w.id⟩) =
            (signals.getD i Signal.fresh).waiting.filter (·.id != id) :=
        List.filter_congr fun w _ => by
          rw [Bool.eq_iff_iff, bne_iff_ne, bne_iff_ne, Ne, Registration.mk.injEq, eq_comm (a := id)]
          simp
      rw [here]
      split
      · rfl
      · next hs =>
        rw [getD_of_size_le (Nat.le_of_not_lt fun h => hs ⟨rfl, h⟩)]
        rfl
    · have other : (signals.getD i Signal.fresh).waiting.filter (fun w =>
          (⟨some j, id⟩ : Registration) != ⟨some i, w.id⟩) = (signals.getD i Signal.fresh).waiting :=
        List.filter_eq_self.mpr fun w _ => by simp [Ne.symm hi]
      rw [other, if_neg fun h => hi h.1]

/-- Where callbacks own no registrations, giving up a registration takes out its callback. -/
theorem without_eq_strike (signals : Signals κ)
    (plain : ∀ i, ∀ w ∈ (signals.getD i Signal.fresh).waiting, w.owns = []) (r : Registration) :
    without signals r = strike signals r := by
  cases hr : r.signal with
  | none => rw [without_of_none _ hr, strike, hr]
  | some i => rw [without_of_some _ hr (plain i), strike, hr]

/-- What waits on a signal after a registration has been given up. -/
theorem getD_without (signals : Signals κ)
    (plain : ∀ i, ∀ w ∈ (signals.getD i Signal.fresh).waiting, w.owns = []) (r : Registration)
    (i : Nat) : (without signals r).getD i Signal.fresh = { signals.getD i Signal.fresh with
      waiting := (signals.getD i Signal.fresh).waiting.filter fun w => r != ⟨some i, w.id⟩ } := by
  rw [without_eq_strike signals plain, getD_strike]

theorem size_withdrawAll {fuel : Nat} {locked : List Nat} {rs : List Registration}
    {signals signals' : Signals κ} (h : withdrawAll fuel locked rs signals = .done signals') :
    signals'.size = signals.size := by
  induction fuel generalizing locked rs signals signals' with
  | zero =>
    cases h
    rfl
  | succ fuel ih =>
    cases rs with
    | nil =>
      cases h
      rfl
    | cons r rest =>
      simp only [withdrawAll] at h
      split at h
      · exact ih h
      · split at h
        · cases h
        · split at h
          · cases h
          · next inner => rw [ih h, ih inner, Array.size_setIfInBounds]

theorem size_without (signals : Signals κ) (r : Registration) :
    (without signals r).size = signals.size := by
  rw [without]
  split
  · next h => exact size_withdrawAll h
  · rfl

/-- Whether the signal of a token is one of the first so many. -/
def Token.Within (token : Token) (n : Nat) : Prop := ∀ i, token.signal = some i → i < n

theorem Token.Within.mono {token : Token} {m n : Nat} (h : token.Within m) (hn : m ≤ n) :
    token.Within n :=
  fun i hi => Nat.lt_of_lt_of_le (h i hi) hn

end EmbeddedPython.Cancellation
