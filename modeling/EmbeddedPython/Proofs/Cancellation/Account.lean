import EmbeddedPython.Proofs.Cancellation.Event
import Mathlib.Algebra.Order.Ring.Nat

/-
  What is owed to callbacks

  A callback that has been registered is owed one run at most, by the signal
  that it waits on or by the call that cancels the signal. Running it settles
  the debt, and giving up its registration cancels it. Every step also uses up
  some of the weight of a running script, so that every call comes to its end.
-/

namespace EmbeddedPython.Cancellation

/-! ## Debts -/

/-- The callback that an event runs. -/
def Event.ran? : Event → Option Registration
  | .run r _ => some r
  | _ => none

/-- The callback that an event registers, on a signal. -/
def Event.registered? : Event → Option Registration
  | .register r _ => r.signal.map fun _ => r
  | _ => none

/-- The callbacks that run, in order. -/
def ran (es : List Event) : List Registration := es.filterMap Event.ran?

/-- The callbacks that are registered, in order. -/
def registered (es : List Event) : List Registration := es.filterMap Event.registered?

theorem ran_append (es es' : List Event) : ran (es ++ es') = ran es ++ ran es' :=
  List.filterMap_append ..

theorem registered_cons (e : Event) (es : List Event) :
    registered (e :: es) = e.registered?.toList ++ registered es := by
  cases h : e.registered? <;> simp [registered, h]

theorem mem_ran {y : Registration} {es : List Event} : y ∈ ran es ↔ ∃ c, .run y c ∈ es := by
  constructor
  · intro h
    obtain ⟨e, he, hy⟩ := List.mem_filterMap.mp h
    cases e <;> cases hy
    exact ⟨_, he⟩
  · rintro ⟨c, h⟩
    exact List.mem_filterMap.mpr ⟨_, h, rfl⟩

theorem of_registered? {e : Event} {y : Registration} (h : e.registered? = some y) :
    (∃ c, e = .register y c) ∧ y.signal ≠ none := by
  cases e with
  | register r c =>
    obtain ⟨i, hi, rfl⟩ := Option.map_eq_some_iff.mp h
    exact ⟨⟨c, rfl⟩, by rw [hi]; nofun⟩
  | _ => cases h

theorem OnlyDrops.ran {es : List Event} (h : OnlyDrops es) : ran es = [] := by
  refine List.filterMap_eq_nil_iff.mpr fun e he => ?_
  obtain ⟨r, rfl⟩ := h e he
  rfl

theorem OnlyDrops.registered {es : List Event} (h : OnlyDrops es) : registered es = [] := by
  refine List.filterMap_eq_nil_iff.mpr fun e he => ?_
  obtain ⟨r, rfl⟩ := h e he
  rfl

/-- The registrations of callbacks that wait on a signal. -/
def registrations (i : Nat) (ws : List (Waiting (List Action))) : List Registration :=
  ws.map fun w => ⟨some i, w.id⟩

/-- The callbacks that a frame has yet to run. -/
def Frame.due : Frame → List Registration
  | .cancelling i ws => registrations i ws
  | _ => []

/-- The callbacks that a stack has yet to run. -/
def dueIn (stack : List Frame) : List Registration := stack.flatMap Frame.due

/-- How often a callback waits on its signal. -/
def waits (signal : Nat → Signal (List Action)) (y : Registration) : Nat :=
  match y.signal with
  | none => 0
  | some i => (registrations i (signal i).waiting).count y

/-- How often a callback is still to run. -/
def Running.owed (r : Running) (y : Registration) : Nat :=
  (dueIn r.stack).count y + waits r.table.signal y

/-- Whether a registration has been made. -/
def Table.Known (t : Table) (y : Registration) : Prop :=
  ∃ i, y.signal = some i ∧ y.id < (t.signal i).nextId

/-- A registration under the next number of a signal has not been made. -/
theorem Table.unknown (t : Table) {y : Registration} {i : Nat} (hy : y.signal = some i)
    (number : y.id = (t.signal i).nextId) : ¬ t.Known y := by
  rintro ⟨j, hj, below⟩
  cases hy.symm.trans hj
  omega

section

variable {signal : Nat → Signal (List Action)} {y : Registration}

theorem waits_drop (r : Registration) : waits ((Event.drop r).change signal) y ≤ waits signal y := by
  simp only [waits]
  split
  · exact Nat.le_refl 0
  · exact (List.filter_sublist.map _).count_le y

theorem waits_drops {es : List Event} (h : OnlyDrops es) (signal : Nat → Signal (List Action)) :
    waits (Table.changed signal es) y ≤ waits signal y := by
  induction es generalizing signal with
  | nil => exact Nat.le_refl _
  | cons e es ih =>
    obtain ⟨r, rfl⟩ := h e List.mem_cons_self
    exact Nat.le_trans (ih (fun e he => h e (List.mem_cons_of_mem _ he)) _) (waits_drop r)

/-- A callback that is registered on a signal waits on it, unless the signal has been raised. -/
theorem waits_register {r : Registration} (callback : List Action)
    (next : ∀ i, r.signal = some i → r.id = (signal i).nextId) :
    waits ((Event.register r callback).change signal) y ≤
      waits signal y + (registered [.register r callback]).count y := by
  obtain ⟨j?, id⟩ := y
  cases j? with
  | none => exact Nat.zero_le _
  | some j =>
    simp only [waits, Event.change]
    split
    · next hr =>
      have same : (signal j).nextId = r.id := (next j hr).symm
      cases raised : (signal j).raised with
      | true =>
        rw [Signal.register_of_raised _ _ raised]
        exact Nat.le_add_right _ _
      | false =>
        rw [Signal.register_of_unraised _ _ raised]
        obtain ⟨_, rid⟩ := r
        cases hr
        rw [registrations, List.map_append, List.count_append, List.map_singleton, same]
        exact Nat.le_refl _
    · exact Nat.le_add_right _ _

/-- What waits on a signal is taken over by the call that cancels it. -/
theorem waits_cancel (signal : Nat → Signal (List Action)) (y : Registration) (i : Nat) :
    waits ((Event.cancel i).change signal) y + (registrations i (signal i).raise.1).count y =
      waits signal y := by
  have other (hy : y.signal ≠ some i) : (registrations i (signal i).raise.1).count y = 0 := by
    refine List.count_eq_zero.mpr fun h => ?_
    obtain ⟨w, -, rfl⟩ := List.mem_map.mp h
    exact hy rfl
  simp only [waits]
  split
  · next hy => rw [other (by rw [hy]; nofun)]
  · next j hy =>
    by_cases hj : j = i
    · subst hj
      simp only [Event.change]
      cases hr : (signal j).raised <;> simp [Signal.raise, hr, registrations]
    · simp only [Event.change, if_neg hj]
      rw [other (fun h => hj (Option.some.inj (hy.symm.trans h))), Nat.add_zero]

/-- Whatever happens, a registration that has been made stays made. -/
theorem nextId_change (e : Event) (i : Nat) : (signal i).nextId ≤ (e.change signal i).nextId := by
  cases e with
  | register r callback =>
    simp only [Event.change]
    split
    · rw [Signal.register_nextId]
      exact Nat.le_succ _
    · exact Nat.le_refl _
  | cancel j =>
    simp only [Event.change]
    split
    · simp only [Signal.raise]
      split <;> exact Nat.le_refl _
    · exact Nat.le_refl _
  | _ => exact Nat.le_refl _

/-- Whatever happens, a signal that has been raised stays raised. -/
theorem raised_change (e : Event) {i : Nat} (h : (signal i).raised = true) :
    (e.change signal i).raised = true := by
  cases e with
  | register r callback =>
    simp only [Event.change]
    split
    · rwa [Signal.register_raised]
    · exact h
  | cancel j =>
    simp only [Event.change]
    split
    · simp [Signal.raise, h]
    · exact h
  | _ => exact h

theorem nextId_changed (signal : Nat → Signal (List Action)) (es : List Event) (i : Nat) :
    (signal i).nextId ≤ (Table.changed signal es i).nextId := by
  induction es generalizing signal with
  | nil => exact Nat.le_refl _
  | cons e es ih => exact Nat.le_trans (nextId_change e i) (ih _)

theorem raised_changed (es : List Event) {i : Nat} (h : (signal i).raised = true) :
    (Table.changed signal es i).raised = true := by
  induction es generalizing signal with
  | nil => exact h
  | cons e es ih => exact ih (raised_change e h)

end

/-- What is owed to a callback is paid or cancelled by what happens, and owed to those that are
registered. -/
theorem Performs.owes {signal : Nat → Signal (List Action)} {stack stack' : List Frame}
    {es : List Event} (h : Performs signal stack es stack') (y : Registration) :
    (ran es).count y + ((dueIn stack').count y + waits (Table.changed signal es) y) ≤
      (dueIn stack).count y + waits signal y + (registered es).count y := by
  cases h with
  | quiet drops =>
    have := waits_drops (y := y) drops signal
    rw [drops.ran, List.count_nil]
    omega
  | @register es r callback early drops =>
    have added := waits_register (y := y) callback fun i hi => (early i hi).2
    have gone := waits_drops (y := y) drops ((Event.register r callback).change signal)
    have none : ran (.register r callback :: .done :: es) = [] := drops.ran
    have here : (registered [.register r callback]).count y ≤
        (registered (.register r callback :: .done :: es)).count y :=
      ((List.Sublist.cons_cons _ (List.nil_sublist _)).filterMap _).count_le y
    rw [none, List.count_nil]
    show 0 + ((dueIn stack).count y +
      waits (Table.changed ((Event.register r callback).change signal) es) y) ≤ _
    omega
  | late i callback name raised =>
    let r : Registration := ⟨some i, (signal i).nextId⟩
    have kept : waits ((Event.register r callback).change signal) y = waits signal y := by
      simp only [waits, Event.change]
      split
      · rfl
      · split
        · next h =>
          cases h
          rw [Signal.register_of_raised _ _ raised]
        · rfl
    show [r].count y + ((dueIn stack).count y + waits ((Event.register r callback).change signal) y) ≤
      (dueIn stack).count y + waits signal y + [r].count y
    omega
  | cancel i =>
    have moved := waits_cancel signal y i
    show 0 + ((registrations i (signal i).raise.1 ++ dueIn stack).count y +
      waits ((Event.cancel i).change signal) y) ≤ (dueIn stack).count y + waits signal y + 0
    rw [List.count_append]
    omega
  | panic =>
    show 0 + (0 + waits signal y) ≤ (dueIn stack).count y + waits signal y + 0
    omega

/-- What happens registers one callback at most, under the next number of its signal. -/
theorem Performs.numbers {signal : Nat → Signal (List Action)} {stack stack' : List Frame}
    {es : List Event} (h : Performs signal stack es stack') : (registered es).length ≤ 1 ∧
      ∀ y ∈ registered es, ∃ i, y.signal = some i ∧ y.id = (signal i).nextId ∧
        y.id < (Table.changed signal es i).nextId := by
  have advanced {r : Registration} {callback : List Action} {i : Nat} (hr : r.signal = some i) :
      ((Event.register r callback).change signal i).nextId = (signal i).nextId + 1 := by
    simp only [Event.change, hr, if_true, Signal.register_nextId]
  cases h with
  | quiet drops => simp [drops.registered]
  | @register es r callback early drops =>
    have only : registered (.register r callback :: .done :: es) =
        (r.signal.map fun _ => r).toList := by
      rw [registered_cons, registered_cons, drops.registered]
      exact List.append_nil _
    rw [only]
    cases hr : r.signal with
    | none => simp
    | some i =>
      have later := nextId_changed ((Event.register r callback).change signal) es i
      have next := (early i hr).2
      rw [advanced hr, ← next] at later
      refine ⟨Nat.le_refl 1, fun y hy => ?_⟩
      obtain rfl : y = r := by simpa using hy
      exact ⟨i, hr, next, later⟩
  | late i callback name raised =>
    have only : registered [.register ⟨some i, (signal i).nextId⟩ callback,
        .run ⟨some i, (signal i).nextId⟩ callback] = [⟨some i, (signal i).nextId⟩] := rfl
    rw [only]
    refine ⟨Nat.le_refl 1, fun y hy => ?_⟩
    obtain rfl := List.mem_singleton.mp hy
    exact ⟨i, rfl, rfl, Nat.lt_of_lt_of_eq (Nat.lt_succ_self _) (advanced rfl).symm⟩
  | cancel | panic => exact ⟨Nat.zero_le 1, by rintro _ ⟨⟩⟩

/-- A callback that runs at once is registered with it. -/
theorem Performs.runs {signal : Nat → Signal (List Action)} {stack stack' : List Frame}
    {es : List Event} (h : Performs signal stack es stack') {y : Registration} (hy : y ∈ ran es) :
    y ∈ registered es := by
  cases h with
  | quiet drops =>
    rw [drops.ran] at hy
    cases hy
  | @register es r callback _ drops =>
    have none : ran (.register r callback :: .done :: es) = [] := drops.ran
    rw [none] at hy
    cases hy
  | late => exact hy
  | cancel | panic => cases hy

/-! ## Debts of a running script -/

namespace Steps

variable {signal : Nat → Signal (List Action)} {stack stack' : List Frame} {es : List Event}

theorem owes (h : Steps signal stack es stack') (y : Registration) :
    (ran es).count y + ((dueIn stack').count y + waits (Table.changed signal es) y) ≤
      (dueIn stack).count y + waits signal y + (registered es).count y := by
  cases h with
  | finish | served => exact Nat.le_of_eq (Nat.zero_add _)
  | perform a actions h => exact h.owes y
  | next i w ws rest =>
    show [_].count y + ((registrations i ws ++ dueIn rest).count y + waits signal y) ≤
      (registrations i (w :: ws) ++ dueIn rest).count y + waits signal y + 0
    have split : registrations i (w :: ws) = [⟨some i, w.id⟩] ++ registrations i ws := rfl
    rw [split, List.count_append, List.count_append, List.count_append]
    omega
  | @store es name _ drops =>
    have gone := waits_drops (y := y) drops signal
    have none : ran (.done :: es) = [] := drops.ran
    rw [none, List.count_nil]
    show 0 + ((dueIn stack').count y + waits (Table.changed signal es) y) ≤
      (dueIn stack').count y + waits signal y + _
    omega

theorem numbers (h : Steps signal stack es stack') : (registered es).length ≤ 1 ∧
    ∀ y ∈ registered es, ∃ i, y.signal = some i ∧ y.id = (signal i).nextId ∧
      y.id < (Table.changed signal es i).nextId := by
  cases h with
  | perform a actions h => exact h.numbers
  | finish | served | next => exact ⟨Nat.zero_le 1, nofun⟩
  | store name rest drops =>
    rw [registered_cons, drops.registered]
    exact ⟨Nat.zero_le 1, nofun⟩

/-- A callback that runs is registered with it, or has been taken to be run. -/
theorem runs (h : Steps signal stack es stack') {y : Registration} (hy : y ∈ ran es) :
    y ∈ registered es ∨ y ∈ dueIn stack := by
  cases h with
  | perform a actions h => exact .inl (h.runs hy)
  | next i w ws rest =>
    obtain rfl := List.mem_singleton.mp hy
    exact .inr List.mem_cons_self
  | finish | served => cases hy
  | @store es name _ drops =>
    have none : ran (.done :: es) = [] := drops.ran
    rw [none] at hy
    cases hy

end Steps

namespace Running

/-- What every running script keeps to. -/
structure Sound (r : Running) : Prop where
  sane : r.table.Sane
  /-- no callback is owed more than one run -/
  single : ∀ y, r.owed y ≤ 1
  known : ∀ y, 0 < r.owed y → r.table.Known y

variable {r next : Running} {es : List Event}

/-- What a running script is after something that leaves it sane, accounts for what it owes and
registers callbacks under new numbers. -/
theorem Sound.of_owes (sound : r.Sound) (sane : next.table.Sane)
    (signals : next.table.signal = Table.changed r.table.signal es)
    (owes : ∀ y, (ran es).count y + next.owed y ≤ r.owed y + (registered es).count y)
    (numbers : (registered es).length ≤ 1 ∧ ∀ y ∈ registered es, ∃ i, y.signal = some i ∧
      y.id = (r.table.signal i).nextId ∧ y.id < (Table.changed r.table.signal es i).nextId) :
    next.Sound ∧ (∀ y, (ran es).count y + next.owed y ≤ 1) ∧ ∀ y, r.table.Known y →
      next.table.Known y ∧ (ran es).count y + next.owed y ≤ r.owed y := by
  have stays {y : Registration} (h : r.table.Known y) : next.table.Known y := by
    obtain ⟨i, hi, below⟩ := h
    refine ⟨i, hi, Nat.lt_of_lt_of_le below ?_⟩
    rw [signals]
    exact nextId_changed _ es i
  have older {y : Registration} (h : r.table.Known y) : (registered es).count y = 0 := by
    obtain ⟨i, hi, below⟩ := h
    refine List.count_eq_zero.mpr fun hy => ?_
    obtain ⟨j, hj, number, -⟩ := numbers.2 y hy
    cases hi.symm.trans hj
    exact absurd below (by omega)
  have newer {y : Registration} (h : ¬ r.table.Known y) : r.owed y = 0 :=
    Nat.eq_zero_of_not_pos fun owed => h (sound.known y owed)
  have once (y : Registration) : (ran es).count y + next.owed y ≤ 1 := by
    have := owes y
    by_cases h : r.table.Known y
    · have := older h
      have := sound.single y
      omega
    · have := newer h
      have : (registered es).count y ≤ 1 := Nat.le_trans List.count_le_length numbers.1
      omega
  refine ⟨⟨sane, fun y => ?_, fun y owed => ?_⟩, once, fun y h => ⟨stays h, ?_⟩⟩
  · have := once y
    omega
  · by_cases h : r.table.Known y
    · exact stays h
    · have := owes y
      have := newer h
      have hy : y ∈ registered es := List.count_pos_iff.mp (by omega)
      obtain ⟨i, hi, -, below⟩ := numbers.2 y hy
      rw [← signals] at below
      exact ⟨i, hi, below⟩
  · have := owes y
    have := older h
    omega

theorem Sound.step (sound : r.Sound) (h : r.step = some next) : next.Sound ∧
    (∀ y, (ran r.events).count y + next.owed y ≤ 1) ∧ ∀ y, r.table.Known y →
      next.table.Known y ∧ (ran r.events).count y + next.owed y ≤ r.owed y := by
  have signals := step_signal sound.sane h
  refine sound.of_owes (step_sane sound.sane h) signals (fun y => ?_) (steps h).numbers
  have owes := (steps h).owes y
  rw [← signals] at owes
  exact owes

theorem Sound.perform (sound : r.Sound) (a : Action) : (r.perform a).Sound ∧
    (∀ y, (ran (r.table.performs a)).count y + (r.perform a).owed y ≤ 1) ∧
    ∀ y, r.table.Known y → (r.perform a).table.Known y ∧
      (ran (r.table.performs a)).count y + (r.perform a).owed y ≤ r.owed y := by
  have signals := perform_signal sound.sane a
  refine sound.of_owes (perform_sane sound.sane a) signals (fun y => ?_) (r.performs a).numbers
  have owes := (r.performs a).owes y
  rw [← signals] at owes
  exact owes

end Running

/-! ## Weights -/

/-- The steps that the callbacks on a signal can take. -/
def Signal.load (s : Signal (List Action)) : Nat :=
  (s.waiting.map fun w => Action.weights w.callback + 1).sum

/-- The steps that the waiting callbacks can take. -/
def Table.load (t : Table) : Nat := (t.signals.toList.map Signal.load).sum

theorem Frame.weight_cancelling (i : Nat) (callbacks : List (Waiting (List Action))) :
    (Frame.cancelling i callbacks).weight =
      (callbacks.map fun w => Action.weights w.callback + 1).sum + 1 := rfl

theorem Frame.weight_body (actions : List Action) :
    (Frame.body actions).weight = Action.weights actions := rfl

theorem Running.weight_eq (r : Running) :
    r.weight = (r.stack.map Frame.weight).sum + r.table.load := rfl

theorem Action.two_le_weight (a : Action) : 2 ≤ a.weight := by
  cases a <;> simp only [Action.weight] <;> omega

theorem sum_set {α : Type} (f : α → Nat) (xs : List α) {i : Nat} (hi : i < xs.length) (x : α) :
    ((xs.set i x).map f).sum + f xs[i] = (xs.map f).sum + f x := by
  induction xs generalizing i with
  | nil => exact absurd hi (Nat.not_lt_zero i)
  | cons y xs ih =>
    cases i with
    | zero =>
      simp only [List.set_cons_zero, List.map_cons, List.sum_cons, List.getElem_cons_zero]
      omega
    | succ i =>
      have := ih (Nat.lt_of_succ_lt_succ hi)
      simp only [List.set_cons_succ, List.map_cons, List.sum_cons, List.getElem_cons_succ]
      omega

theorem sum_filter_le {α : Type} (f : α → Nat) (p : α → Bool) (xs : List α) :
    ((xs.filter p).map f).sum ≤ (xs.map f).sum := by
  induction xs with
  | nil => exact Nat.le_refl _
  | cons x xs ih =>
    rw [List.filter_cons, List.map_cons, List.sum_cons]
    split
    · rw [List.map_cons, List.sum_cons]
      exact Nat.add_le_add_left ih _
    · exact Nat.le_trans ih (Nat.le_add_left _ _)

namespace Table

variable {t : Table}

theorem load_put {i : Nat} (hi : i < t.signals.size) (s : Signal (List Action)) :
    ({ t with signals := t.signals.setIfInBounds i s } : Table).load + (t.signal i).load =
      t.load + s.load := by
  have here : t.signal i = t.signals.toList[i] := by
    simp [signal, Array.getD, hi]
  simp only [load, Array.toList_setIfInBounds]
  rw [here]
  exact sum_set Signal.load _ hi s

theorem load_giveUp (plain : ∀ i, ∀ w ∈ (t.signal i).waiting, w.owns = []) (r : Registration) :
    (t.giveUp r).load ≤ t.load := by
  rw [giveUp_eq]
  cases hr : r.signal with
  | none => simp only [without_of_none _ hr, Nat.le_refl]
  | some i =>
    rw [without_of_some _ hr (plain i)]
    by_cases hi : i < t.signals.size
    · have put := load_put hi ((t.signal i).withdraw r.id).2
      have fewer : ((t.signal i).withdraw r.id).2.load ≤ (t.signal i).load :=
        sum_filter_le ..
      exact Nat.le_of_add_le_add_right (Nat.le_trans (Nat.le_of_eq put) (Nat.add_le_add_left fewer _))
    · have same : t.signals.setIfInBounds i ((t.signals.getD i Signal.fresh).withdraw r.id).2 =
          t.signals := by
        simp [Array.setIfInBounds, hi]
      simp only [same, Nat.le_refl]

theorem load_store (plain : ∀ i, ∀ w ∈ (t.signal i).waiting, w.owns = []) (name : String)
    (r : Registration) : (t.storeRegistration name r).load ≤ t.load := by
  simp only [storeRegistration]
  cases t.registrations.lookup name with
  | none => exact Nat.le_refl _
  | some old =>
    exact load_giveUp (t := { t with registrations := bind name r t.registrations }) plain old

end Table

namespace Running

variable {r next : Running}

theorem deliver_weight (r : Running) (a : Answer) : (r.deliver a).weight = r.weight := by
  rw [weight_eq, weight_eq, deliver_stack, Table.load, deliver_signals, Table.load]

/-- A callback that is registered weighs no more where it waits, or runs, than in the action. -/
theorem register_weight (sane : r.table.Sane) (name token : String) (callback : List Action) :
    (r.perform (.register name token callback)).weight <
      r.weight + (Action.register name token callback).weight := by
  simp only [perform, Action.weight]
  split
  · rw [deliver_weight]
    have := Table.load_store (t := r.table) sane.plain name Registration.nothing
    simp only [weight_eq]
    omega
  · next i ht =>
    have put : (r.table.enroll i callback).load + (r.table.signal i).load = r.table.load +
      ((r.table.signal i).register callback []).2.load := Table.load_put (sane.token ht) _
    have same : r.table.signals.getD i Signal.fresh = r.table.signal i := rfl
    simp only [same]
    cases raised : (r.table.signal i).raised with
    | true =>
      have taken := Signal.register_of_raised callback [] raised
      have load : ((r.table.signal i).register callback []).2.load = (r.table.signal i).load := by
        rw [taken, Signal.load, Signal.load]
      rw [congrArg Prod.fst taken]
      show (Action.weights callback + (1 + (r.stack.map Frame.weight).sum)) +
        (r.table.enroll i callback).load < _
      rw [weight_eq]
      omega
    | false =>
      have kept := Signal.register_of_unraised callback [] raised
      have load : ((r.table.signal i).register callback []).2.load =
          (r.table.signal i).load + (Action.weights callback + 1) := by
        simp [kept, Signal.load]
      have stored := Table.load_store (Table.enroll_plain sane.plain (sane.token ht) callback) name
        ⟨some i, (r.table.signal i).nextId⟩
      rw [congrArg Prod.fst kept, deliver_weight, weight_eq, weight_eq]
      refine Nat.lt_of_le_of_lt (Nat.add_le_add_left stored _) ?_
      dsimp only
      omega

/-- The callbacks that a cancellation runs have waited on its signal. -/
theorem cancel_weight (sane : r.table.Sane) (source : String) :
    (r.perform (.cancel source)).weight < r.weight + (Action.cancel source).weight := by
  simp only [perform, Action.weight]
  split
  · rw [deliver_weight]
    omega
  · next i hs =>
    have put := Table.load_put (sane.source hs) (r.table.signal i).raise.2
    have moved : (r.table.signal i).raise.2.load +
        ((r.table.signal i).raise.1.map fun w => Action.weights w.callback + 1).sum =
          (r.table.signal i).load := by
      simp only [Signal.raise]
      split <;> simp [Signal.load]
    have same : r.table.signals.getD i Signal.fresh = r.table.signal i := rfl
    simp only [weight_eq, List.map_cons, List.sum_cons, Frame.weight_cancelling, same]
    omega

/-- Performing an action uses it up. -/
theorem perform_weight (sane : r.table.Sane) (a : Action) :
    (r.perform a).weight < r.weight + a.weight := by
  have less (a : Action) : r.weight < r.weight + a.weight :=
    Nat.lt_add_of_pos_right (Nat.lt_of_lt_of_le Nat.zero_lt_two a.two_le_weight)
  cases a with
  | newSource name =>
    have same : ({ r.table with signals := r.table.signals.push Signal.fresh } : Table).load =
        r.table.load := by
      simp [Table.load, Signal.load, Signal.fresh]
    rw [perform, deliver_weight]
    refine Nat.lt_of_le_of_lt (Nat.le_of_eq ?_) (less (.newSource name))
    exact congrArg ((r.stack.map Frame.weight).sum + ·) same
  | register name token callback => exact register_weight sane name token callback
  | giveUp name =>
    simp only [perform, Action.weight]
    split
    · rw [deliver_weight]
      omega
    · next registration _ =>
      rw [deliver_weight]
      have := Table.load_giveUp (t := { r.table with
        registrations := Table.unbind name r.table.registrations }) sane.plain registration
      simp only [weight_eq]
      exact Nat.lt_of_le_of_lt (Nat.add_le_add_left this _) (Nat.lt_add_of_pos_right Nat.zero_lt_two)
  | cancel source => exact cancel_weight sane source
  | panic text =>
    simp only [perform, unwind, weight_eq, Action.weight, List.map_nil, List.sum_nil]
    omega
  | _ =>
    simp only [perform, deliver_weight]
    exact less _

/-- Every step uses up some of the weight. -/
theorem step_weight (sane : r.table.Sane) (h : r.step = some next) : next.weight < r.weight := by
  obtain ⟨stack, table, answer⟩ := r
  cases stack with
  | nil => cases h
  | cons frame rest =>
    cases frame with
    | body actions =>
      cases actions with
      | nil =>
        cases h
        simp only [weight_eq, List.map_cons, List.sum_cons, Frame.weight, Action.weights]
        omega
      | cons a actions =>
        cases h
        have := perform_weight (r := ⟨.body actions :: rest, table, answer⟩) sane a
        simp only [weight_eq, List.map_cons, List.sum_cons, Frame.weight, Action.weights] at this ⊢
        omega
    | cancelling i callbacks =>
      cases callbacks with
      | nil =>
        cases h
        rw [deliver_weight]
        simp only [weight_eq, List.map_cons, List.sum_cons, Frame.weight_cancelling]
        omega
      | cons w ws =>
        cases h
        simp only [weight_eq, List.map_cons, List.sum_cons, Frame.weight_cancelling,
          Frame.weight_body]
        omega
    | registering name =>
      cases h
      rw [deliver_weight]
      have := Table.load_store (t := table) sane.plain name Registration.nothing
      simp only [weight_eq, List.map_cons, List.sum_cons, Frame.weight]
      omega

theorem stack_of_step_none (h : r.step = none) : r.stack = [] := by
  obtain ⟨stack, table, answer⟩ := r
  cases stack with
  | nil => rfl
  | cons f rest =>
    cases f with
    | body actions => cases actions <;> cases h
    | cancelling i ws => cases ws <;> cases h
    | registering name => cases h

/-- With fuel enough, a script runs to its end, and what it owes is accounted for. -/
theorem Sound.run (n : Nat) (sound : r.Sound) (enough : r.weight < n) :
    (r.run n).Sound ∧ (r.run n).stack = [] ∧ ∀ y, r.table.Known y → (r.run n).table.Known y ∧
      (ran (r.trace n)).count y + (r.run n).owed y ≤ r.owed y := by
  induction n generalizing r with
  | zero => exact absurd enough (Nat.not_lt_zero _)
  | succ n ih =>
    cases h : r.step with
    | none =>
      simp only [Running.trace, Running.run, h]
      exact ⟨sound, stack_of_step_none h, fun y known => ⟨known, Nat.le_of_eq (Nat.zero_add _)⟩⟩
    | some next =>
      simp only [Running.trace, Running.run, h]
      have lighter := step_weight sound.sane h
      obtain ⟨sound', -, owes⟩ := sound.step h
      obtain ⟨sound'', ended, owes'⟩ := ih sound' (by omega)
      refine ⟨sound'', ended, fun y known => ?_⟩
      obtain ⟨known', before⟩ := owes y known
      obtain ⟨known'', after⟩ := owes' y known'
      refine ⟨known'', ?_⟩
      rw [ran_append, List.count_append]
      omega

end Running

end EmbeddedPython.Cancellation
