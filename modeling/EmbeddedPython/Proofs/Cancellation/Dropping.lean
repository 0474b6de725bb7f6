import EmbeddedPython.Proofs.Cancellation.Once

/-
  Registrations that are given up

  Giving up a registration takes its callback out of the list that waits on the
  signal, and no other callback is concerned. A call that cancels the signal
  takes the whole list before it runs any of it. So the callback never runs when
  its registration has been given up before that call, and runs all the same
  when a callback gives it up while the call is running them.
-/

namespace EmbeddedPython.Cancellation

/-- Whether no callback begins to run after its registration has been given up. -/
def DropsHonoured (es : List Event) : Prop :=
  ∀ before y after, es = before ++ .drop y :: after → y ∉ ran before → y ∉ ran after

/-! ## What stands -/

theorem Event.mem_stands {i : Nat} {e : Event} {x : Callback} {xs : List Callback}
    (other : e ≠ .drop x.1) (h : x ∈ xs) : x ∈ e.stands i xs := by
  cases e with
  | register r callback =>
    simp only [stands]
    split
    · exact List.mem_append_left _ h
    · exact h
  | drop r => exact List.mem_filter.mpr ⟨h, bne_iff_ne.mpr fun hr => other (congrArg _ hr)⟩
  | _ => exact h

theorem mem_foldl_stands {i : Nat} {es : List Event} {x : Callback} {xs : List Callback}
    (kept : .drop x.1 ∉ es) (h : x ∈ xs) : x ∈ es.foldl (Event.stands i) xs := by
  induction es generalizing xs with
  | nil => exact h
  | cons e es ih =>
    rw [List.mem_cons, not_or] at kept
    exact ih kept.2 (Event.mem_stands (Ne.symm kept.1) h)

/-- Whether a callback stands is a matter of its own registration. -/
theorem mem_standing_iff {i : Nat} {es : List Event} {x : Callback} : x ∈ standing i es ↔
    x.1.signal = some i ∧ ∃ older newer, es = older ++ .register x.1 x.2 :: newer ∧
      .drop x.1 ∉ newer := by
  constructor
  · intro h
    refine ⟨(mem_standing h).2, ?_⟩
    induction es using List.reverseRecOn with
    | nil => cases h
    | append_singleton es e ih =>
      have longer (h : x ∈ standing i es) (other : e ≠ .drop x.1) :
          ∃ older newer, es ++ [e] = older ++ .register x.1 x.2 :: newer ∧ .drop x.1 ∉ newer := by
        obtain ⟨older, newer, rfl, kept⟩ := ih h
        refine ⟨older, newer ++ [e], by simp, fun hd => ?_⟩
        rcases List.mem_append.mp hd with hd | hd
        · exact kept hd
        · exact other (List.mem_singleton.mp hd).symm
      rw [standing, List.foldl_append] at h
      cases e with
      | register r callback =>
        simp only [List.foldl_cons, List.foldl_nil, Event.stands] at h
        split at h
        · rcases List.mem_append.mp h with h | h
          · exact longer h (by simp)
          · obtain rfl := List.mem_singleton.mp h
            exact ⟨es, [], rfl, List.not_mem_nil⟩
        · exact longer h (by simp)
      | drop r =>
        obtain ⟨h, hr⟩ := List.mem_filter.mp h
        refine longer h fun he => ?_
        cases he
        exact absurd rfl (bne_iff_ne.mp hr)
      | _ => exact longer h (by simp)
  · rintro ⟨hi, older, newer, rfl, kept⟩
    rw [standing, List.foldl_append, List.foldl_cons]
    refine mem_foldl_stands kept ?_
    simp only [Event.stands, if_pos hi]
    exact List.mem_append_right _ List.mem_cons_self

/-! ## Where registrations are given up -/

/-- Whether nothing comes after a registration is given up. -/
def DropsLast (es : List Event) : Prop := ∀ xs y ys, es = xs ++ .drop y :: ys → ys = []

theorem DropsLast.cons {e : Event} {es : List Event} (other : ∀ y, e ≠ .drop y) (h : DropsLast es) :
    DropsLast (e :: es) := by
  intro xs y ys he
  cases xs with
  | nil =>
    cases he
    exact absurd rfl (other y)
  | cons x xs =>
    cases he
    exact h xs y ys rfl

theorem DropsLast.of_length_le {es : List Event} (h : es.length ≤ 1) : DropsLast es := by
  rintro xs y ys rfl
  rw [List.length_append, List.length_cons] at h
  exact List.eq_nil_of_length_eq_zero (by omega)

theorem Table.forgets_last (t : Table) (name : String) : DropsLast (t.forgets name) := by
  refine .of_length_le ?_
  rw [forgets]
  cases t.registrations.lookup name with
  | none => exact Nat.zero_le 1
  | some r => exact Nat.le_refl 1

theorem Table.performs_last (t : Table) (a : Action) : DropsLast (t.performs a) := by
  cases a with
  | register name token callback =>
    have stored {r : Registration} :
        DropsLast (.register r callback :: .done :: t.forgets name) :=
      .cons (by simp) (.cons (by simp) (t.forgets_last name))
    simp only [performs]
    split
    · exact stored
    · split
      · exact .cons (by simp) (.cons (by simp) (.of_length_le (Nat.zero_le 1)))
      · exact stored
  | giveUp name => exact t.forgets_last name
  | cancel source =>
    simp only [performs]
    cases t.source? source with
    | none => exact .of_length_le (Nat.zero_le 1)
    | some i => exact .of_length_le (Nat.le_refl 1)
  | panic text => exact .of_length_le (Nat.le_refl 1)
  | _ => exact .of_length_le (Nat.zero_le 1)

theorem Running.events_last (r : Running) : DropsLast r.events := by
  simp only [events]
  split
  · exact .of_length_le (Nat.zero_le 1)
  · exact .of_length_le (Nat.le_refl 1)
  · exact r.table.performs_last _
  · exact .of_length_le (Nat.le_refl 1)
  · exact .of_length_le (Nat.le_refl 1)
  · exact .cons (by simp) (r.table.forgets_last _)

/-- Whether a script stands as what has happened says whenever it gives up a registration, and
does not run any more what is owed to nobody then. -/
def Pauses (before es after : List Event) : Prop :=
  ∀ xs y ys, es = xs ++ .drop y :: ys → ∃ r, Books (before ++ xs ++ [.drop y]) r ∧
    ∀ z, r.table.Known z → r.owed z = 0 → z ∉ ran (ys ++ after)

theorem Pauses.append {before es es' after : List Event} (h : Pauses before es (es' ++ after))
    (h' : Pauses (before ++ es) es' after) : Pauses before (es ++ es') after := by
  intro xs y ys he
  rcases List.append_eq_append_iff.mp he with ⟨more, rfl, rest⟩ | ⟨more, rfl, rest⟩
  · obtain ⟨r, books, inert⟩ := h' more y ys rest
    exact ⟨r, by simpa using books, inert⟩
  · cases more with
    | nil =>
      obtain ⟨r, books, inert⟩ := h' [] y ys rest.symm
      exact ⟨r, by simpa using books, inert⟩
    | cons e more =>
      cases rest
      obtain ⟨r, books, inert⟩ := h xs y more rfl
      refine ⟨r, books, fun z known nothing => ?_⟩
      have rest := inert z known nothing
      rwa [← List.append_assoc] at rest

theorem Pauses.of_last {before es after : List Event} {r : Running} (last : DropsLast es)
    (books : Books (before ++ es) r)
    (inert : ∀ z, r.table.Known z → r.owed z = 0 → z ∉ ran after) : Pauses before es after := by
  intro xs y ys he
  obtain rfl := last xs y ys he
  subst he
  exact ⟨r, by rwa [List.append_assoc], inert⟩

/-- What has been registered and is owed to nobody does not run up to the end, nor after it. -/
theorem Running.Sound.inert {r : Running} (sound : r.Sound) {n : Nat} (enough : r.weight < n)
    {es : List Event}
    (inert : ∀ y, (r.run n).table.Known y → (r.run n).owed y = 0 → y ∉ ran es) :
    ∀ y, r.table.Known y → r.owed y = 0 → y ∉ ran (r.trace n ++ es) := by
  intro y known nothing
  obtain ⟨-, -, owes⟩ := sound.run n enough
  obtain ⟨known', fewer⟩ := owes y known
  rw [ran_append, List.mem_append, not_or]
  exact ⟨List.count_eq_zero.mp (by omega), inert y known' (by omega)⟩

theorem Books.pauses {before : List Event} {r : Running} (n : Nat) (books : Books before r)
    (enough : r.weight < n) (es : List Event)
    (inert : ∀ y, (r.run n).table.Known y → (r.run n).owed y = 0 → y ∉ Cancellation.ran es) :
    Pauses before (r.trace n) es := by
  induction n generalizing r before with
  | zero => exact absurd enough (Nat.not_lt_zero _)
  | succ n ih =>
    cases h : r.step with
    | none =>
      simp only [Running.trace, h]
      intro xs y ys he
      simp at he
    | some next =>
      simp only [Running.trace, Running.run, h] at inert ⊢
      have lighter := Running.step_weight books.sound.sane h
      have after := books.step h
      exact .append (.of_last r.events_last after (after.sound.inert (by omega) inert))
        (ih after (by omega) inert)

theorem Table.traceAll_pauses {t : Table} {before : List Event} (actions : List Action)
    (books : Books before ⟨[], t, .nothing⟩) : Pauses before (t.traceAll actions) [] := by
  induction actions generalizing t before with
  | nil =>
    intro xs y ys he
    simp [traceAll] at he
  | cons a actions ih =>
    have books := books.relabel [] .nothing
    have began := books.perform a
    rw [performs_eq] at began
    have began : Books (before ++ t.performs a) (t.began a) := began
    have same := between (t := t) (a := a) began.sound
    obtain ⟨ended, -, -⟩ := began.sound.run _ (Nat.lt_succ_self _)
    have next := ended.relabel [] .nothing
    rw [← Table.ended, ← same] at next
    have rest : ∀ y, (t.ended a).table.Known y → (t.ended a).owed y = 0 →
        y ∉ ran ((t.perform a).2.traceAll actions) := by
      refine fun y known nothing => inert actions next y known ?_
      rw [same]
      exact nothing
    have running := began.pauses _ (Nat.lt_succ_self _) _ rest
    obtain ⟨-, finished⟩ := began.run _ (Nat.lt_succ_self _) _ rest
    have finished := finished.relabel [] .nothing
    rw [← Table.ended, ← same] at finished
    rw [traceAll, trace, List.append_assoc]
    refine .append (.of_last (t.performs_last a) began ?_) (.append ?_ (ih finished))
    · rw [List.append_nil]
      exact began.sound.inert (Nat.lt_succ_self _) rest
    · rwa [List.append_nil]

/-! ## What comes of giving up a registration -/

theorem Batch.ran {xs ys : List Callback} {es : List Event} (h : Batch xs ys es) {x : Callback}
    (hx : x ∈ ys) : x.1 ∈ Cancellation.ran es := by
  refine mem_ran.mpr ⟨x.2, ?_⟩
  cases h with
  | returns served after => exact List.mem_append_left _ (served.ran hx)
  | panics ys y zs _ served _ after =>
    rcases List.mem_append.mp hx with hx | hx
    · exact List.mem_append_left _ (served.ran hx)
    · obtain rfl := List.mem_singleton.mp hx
      exact List.mem_append_right _ List.mem_cons_self

/-- A callback that is to run alone runs at once. -/
theorem Batch.head {x : Callback} {es : List Event} (h : Batch [x] [x] es) :
    ∃ tail, es = .run x.1 x.2 :: tail := by
  generalize hy : [x] = ys at h
  cases h with
  | returns served after =>
    subst hy
    cases served with
    | cons => exact ⟨_, rfl⟩
  | panics ys y zs _ served _ after =>
    cases served with
    | nil =>
      cases hy
      exact ⟨_, rfl⟩
    | cons => simp at hy

/-- Which callbacks run whose registrations are given up, and which run otherwise. -/
structure DropsDecided (es : List Event) : Prop where
  /-- a callback does not run at all if its registration is given up before its signal is
  cancelled -/
  inTime : ∀ before y c after, es = before ++ .drop y :: after → .register y c ∈ before →
    (∀ i, y.signal = some i → .cancel i ∉ before) → y ∉ ran es
  /-- it runs after its registration has been given up if the call that cancels its signal has
  taken it before that, and comes to it; it runs then only -/
  tooLate : ∀ before y c after, es = before ++ .drop y :: after → .register y c ∈ before →
    y ∉ ran before → (y ∈ ran after ↔ ∃ i old new xs, before = old ++ .cancel i :: new ∧
      .cancel i ∉ old ∧ Batch (standing i old) xs (new ++ .drop y :: after) ∧ (y, c) ∈ xs)
  /-- whatever else is given up, the first call that cancels a signal comes to every callback that
  is registered on it and whose own registration has not been given up, unless one before it
  panics -/
  others : ∀ before i after, es = before ++ .cancel i :: after → .cancel i ∉ before →
    ∃ xs, Batch (standing i before) xs after ∧ ∀ y c older newer,
      before = older ++ .register y c :: newer → y.signal = some i → .drop y ∉ newer →
        (y, c) ∈ standing i before ∧ (y ∈ ran es ↔ (y, c) ∈ xs)

section

variable {es : List Event}

/-- What has been given up on a signal that is not cancelled is owed to nobody. -/
theorem Books.nothing_owed {before : List Event} {r : Running} {y : Registration} {i : Nat}
    (books : Books (before ++ [.drop y]) r) (hy : y.signal = some i) (uncancelled : .cancel i ∉ before) :
    r.owed y = 0 := by
  have uncancelled' : .cancel i ∉ before ++ [.drop y] := by simpa using uncancelled
  have due : y ∉ dueIn r.stack := by
    intro h
    obtain ⟨f, hf, hy'⟩ := List.mem_flatMap.mp h
    cases f with
    | cancelling j ws =>
      obtain ⟨w, -, rfl⟩ := List.mem_map.mp hy'
      cases hy
      exact uncancelled' (books.due i ws hf).1
    | _ => cases hy'
  have waiting : y ∉ registrations i (r.table.signal i).waiting := by
    intro h
    obtain ⟨w, hw, rfl⟩ := List.mem_map.mp h
    have here : ((⟨some i, w.id⟩, w.callback) : Callback) ∈
        callbacks i (r.table.signal i).waiting := List.mem_map.mpr ⟨w, hw, rfl⟩
    rw [books.waiting i uncancelled', standing, List.foldl_append] at here
    simpa using (List.mem_filter.mp here).2
  simp only [Running.owed, waits, hy]
  rw [List.count_eq_zero.mpr due, List.count_eq_zero.mpr waiting]

/-- A callback does not run at all if its registration is given up before its signal is cancelled. -/
theorem not_ran_of_drop (due : RunWhenDue es) (pauses : Pauses [] es []) {before after : List Event}
    {y : Registration} {c : List Action} (he : es = before ++ .drop y :: after)
    (registered : .register y c ∈ before)
    (uncancelled : ∀ i, y.signal = some i → .cancel i ∉ before) : y ∉ ran es := by
  intro hy
  obtain ⟨d, hd⟩ := mem_ran.mp hy
  obtain ⟨earlier, later, split⟩ := List.append_of_mem hd
  obtain ⟨-, i, hi, -⟩ := due.due earlier y d later split
  obtain ⟨r, books, inert⟩ := pauses before y after he
  rw [List.nil_append] at books
  have known := books.registered y c (List.mem_append_left _ registered) (by rw [hi]; nofun)
  have later := inert y known (books.nothing_owed hi (uncancelled i hi))
  rw [List.append_nil] at later
  rw [he, ran_append] at hy
  rcases List.mem_append.mp hy with hy | hy
  · -- what has run by then has been registered on a signal that is cancelled
    obtain ⟨d, hd⟩ := mem_ran.mp hy
    obtain ⟨old, new, rfl⟩ := List.append_of_mem hd
    rw [List.append_assoc] at he
    obtain ⟨-, j, hj, cancelled⟩ := due.due old y d _ he
    cases hi.symm.trans hj
    exact uncancelled i hi (List.mem_append_left _ cancelled)
  · exact later hy

/-- A callback that runs, and has been registered before its signal is cancelled, stands then. -/
theorem standing_of_ran (due : RunWhenDue es) (pauses : Pauses [] es []) {old new : List Event}
    {i : Nat} {y : Registration} {c : List Action} (he : es = old ++ .cancel i :: new)
    (first : .cancel i ∉ old) (hi : y.signal = some i) (registered : .register y c ∈ old)
    (runs : y ∈ ran es) : (y, c) ∈ standing i old := by
  obtain ⟨older, newer, rfl⟩ := List.append_of_mem registered
  refine mem_standing_iff.mpr ⟨hi, older, newer, rfl, fun dropped => ?_⟩
  obtain ⟨newer, more, rfl⟩ := List.append_of_mem dropped
  have split : older ++ .register y c :: (newer ++ .drop y :: more) =
      (older ++ .register y c :: newer) ++ .drop y :: more := by simp
  rw [split] at he first
  rw [List.append_assoc, List.cons_append] at he
  refine not_ran_of_drop due pauses he (c := c) (by simp) (fun j hj hc => ?_) runs
  cases hi.symm.trans hj
  exact first (List.mem_append_left _ hc)

/-- A callback that is registered on a cancelled signal has run before anything else happens. -/
theorem ran_of_late (due : RunWhenDue es) {old new after : List Event} {i : Nat} {e : Event}
    {y : Registration} {c : List Action} (he : es = old ++ .cancel i :: (new ++ e :: after))
    (hi : y.signal = some i) (registered : .register y c ∈ new) (other : e ≠ .run y c) :
    y ∈ ran new := by
  obtain ⟨newer, more, rfl⟩ := List.append_of_mem registered
  have split : es = (old ++ .cancel i :: newer) ++ .register y c :: (more ++ e :: after) := by
    simp [he]
  obtain ⟨tail, ht⟩ := (due.late _ y c _ i split hi (by simp)).head
  cases more with
  | nil =>
    cases ht
    exact absurd rfl other
  | cons e' more =>
    cases ht
    exact mem_ran.mpr ⟨c, by simp⟩

theorem dropsDecided (due : RunWhenDue es) (pauses : Pauses [] es []) : DropsDecided es where
  inTime _ _ _ _ he registered := not_ran_of_drop due pauses he registered
  tooLate := by
    intro before y c after he registered waiting
    constructor
    · intro later
      have runs : y ∈ ran es := by
        rw [he, ran_append]
        exact List.mem_append_right _ later
      obtain ⟨i, hi, cancelled⟩ : ∃ i, y.signal = some i ∧ .cancel i ∈ before := by
        by_contra none
        push Not at none
        exact not_ran_of_drop due pauses he registered none runs
      obtain ⟨old, new, rfl, first⟩ := List.eq_append_cons_of_mem cancelled
      rw [List.append_assoc, List.cons_append] at he
      obtain ⟨xs, batch, only⟩ := due.first old i _ he first
      refine ⟨i, old, new, xs, rfl, first, batch, (only (y, c) ?_).mp runs⟩
      rcases List.mem_append.mp registered with registered | registered
      · exact standing_of_ran due pauses he first hi registered runs
      · have registered : .register y c ∈ new := by simpa using registered
        have ran_new : y ∈ ran new := ran_of_late due he hi registered nofun
        refine absurd ?_ waiting
        rw [ran_append]
        exact List.mem_append_right (ran old) ran_new
    · rintro ⟨i, old, new, xs, rfl, -, batch, hx⟩
      have runs := batch.ran hx
      rw [ran_append] at runs
      refine (List.mem_append.mp runs).resolve_left fun early => waiting ?_
      rw [ran_append]
      exact List.mem_append_right _ early
  others := by
    intro before i after he first
    obtain ⟨xs, batch, only⟩ := due.first before i after he first
    refine ⟨xs, batch, fun y c older newer split hy kept => ?_⟩
    have standing : (y, c) ∈ standing i before :=
      mem_standing_iff.mpr ⟨hy, older, newer, split, kept⟩
    exact ⟨standing, only _ standing⟩

end

/-- In every script, a callback whose registration is given up before its signal is cancelled never
runs, and one whose registration is given up later runs if the call that cancels the signal comes
to it. -/
theorem drops_decided (actions : List Action) : DropsDecided (scriptTrace actions) :=
  dropsDecided (runWhenDue (scriptTrace_lawful actions)) (Table.traceAll_pauses actions .empty)

/-- The first of two callbacks gives up the registration of the second, which runs all the same. -/
theorem drop_while_cancelling_is_lost : ¬ DropsHonoured (scriptTrace [.newSource "s",
    .newToken "t" "s", .register "a" "t" [.giveUp "b"], .register "b" "t" [.log "fired"],
    .cancel "s"]) := by
  intro honoured
  have early := honoured [.register ⟨some 0, 1⟩ [.giveUp "b"], .done,
    .register ⟨some 0, 2⟩ [.log "fired"], .done, .cancel 0, .run ⟨some 0, 1⟩ [.giveUp "b"]]
    ⟨some 0, 2⟩ [.done, .run ⟨some 0, 2⟩ [.log "fired"], .done, .done] rfl (by decide)
  exact early (by decide)

end EmbeddedPython.Cancellation
