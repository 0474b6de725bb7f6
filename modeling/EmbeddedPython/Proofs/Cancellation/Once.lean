import EmbeddedPython.Proofs.Cancellation.Calls
import Mathlib.Data.List.Induction

/-
  Callbacks run once

  What has happened so far says how a running script stands: which signals have
  been cancelled, what waits on the others, and what is owed to whom. So every
  event is lawful, by what has happened before it and by what follows on it, and
  no callback of a script runs twice.
-/

namespace EmbeddedPython.Cancellation

/-! ## What waits -/

/-- What an event does to the callbacks that wait on a signal. -/
def Event.stands (i : Nat) (xs : List Callback) : Event → List Callback
  | .register r callback => if r.signal = some i then xs ++ [(r, callback)] else xs
  | .drop r => xs.filter fun x => r != x.1
  | _ => xs

/-- The callbacks that have been registered on a signal and whose registrations have not been given
up, in the order of their registration. -/
def standing (i : Nat) (es : List Event) : List Callback := es.foldl (Event.stands i) []

theorem mem_standing {i : Nat} {es : List Event} {x : Callback} (h : x ∈ standing i es) :
    .register x.1 x.2 ∈ es ∧ x.1.signal = some i := by
  induction es using List.reverseRecOn with
  | nil => cases h
  | append_singleton es e ih =>
    have old (h : x ∈ standing i es) : .register x.1 x.2 ∈ es ++ [e] ∧ x.1.signal = some i :=
      ⟨List.mem_append_left _ (ih h).1, (ih h).2⟩
    rw [standing, List.foldl_append] at h
    cases e with
    | register r callback =>
      simp only [List.foldl_cons, List.foldl_nil, Event.stands] at h
      split at h
      · next hr =>
        rcases List.mem_append.mp h with h | h
        · exact old h
        · obtain rfl := List.mem_singleton.mp h
          exact ⟨List.mem_append_right _ List.mem_cons_self, hr⟩
      · exact old h
    | drop r => exact old (List.mem_filter.mp h).1
    | _ => exact old h

section

variable {signal : Nat → Signal (List Action)} {stack stack' : List Frame} {es : List Event} {i : Nat}

/-- What waits on a signal that is not cancelled is what stands. -/
theorem callbacks_change {e : Event}
    (next : ∀ r c, e = .register r c → r.signal = some i →
      (signal i).raised = false ∧ r.id = (signal i).nextId)
    (other : e ≠ .cancel i) : callbacks i (e.change signal i).waiting =
      e.stands i (callbacks i (signal i).waiting) := by
  cases e with
  | register r callback =>
    simp only [Event.change, Event.stands]
    split
    · next hr =>
      obtain ⟨unraised, number⟩ := next r callback rfl hr
      obtain ⟨_, id⟩ := r
      cases hr
      simp only [Signal.register_of_unraised _ _ unraised, callbacks, List.map_append,
        List.map_singleton]
      rw [← number]
    · rfl
  | drop r =>
    simp only [Event.change, Event.stands, callbacks, List.filter_map]
    rfl
  | cancel j =>
    simp only [Event.change, Event.stands]
    rw [if_neg fun h => other (congrArg _ h.symm)]
  | _ => rfl

theorem callbacks_drops (drops : OnlyDrops es) (signal : Nat → Signal (List Action)) :
    callbacks i (Table.changed signal es i).waiting =
      es.foldl (Event.stands i) (callbacks i (signal i).waiting) := by
  induction es generalizing signal with
  | nil => rfl
  | cons e es ih =>
    obtain ⟨r, rfl⟩ := drops e List.mem_cons_self
    rw [List.foldl_cons, ← callbacks_change (by nofun) (by nofun)]
    exact ih (fun e he => drops e (List.mem_cons_of_mem _ he)) _

theorem Performs.stands (h : Performs signal stack es stack') (unraised : (signal i).raised = false)
    (other : .cancel i ∉ es) : callbacks i (Table.changed signal es i).waiting =
      es.foldl (Event.stands i) (callbacks i (signal i).waiting) := by
  cases h with
  | quiet drops => exact callbacks_drops drops signal
  | @register es r callback early drops =>
    rw [List.foldl_cons, ← callbacks_change ?_ (by nofun)]
    · exact callbacks_drops drops _
    · rintro _ _ ⟨⟩ hr
      exact early i hr
  | late j callback name raised =>
    rw [List.foldl_cons, ← callbacks_change ?_ (by nofun)]
    · rfl
    · rintro _ _ ⟨⟩ hr
      cases hr
      exact absurd (raised.symm.trans unraised) (by decide)
  | cancel j =>
    rw [List.foldl_cons,
      ← callbacks_change (by nofun) fun h => other (List.mem_singleton.mpr h.symm)]
    rfl
  | panic => rfl

theorem Steps.stands (h : Steps signal stack es stack') (unraised : (signal i).raised = false)
    (other : .cancel i ∉ es) : callbacks i (Table.changed signal es i).waiting =
      es.foldl (Event.stands i) (callbacks i (signal i).waiting) := by
  cases h with
  | perform a actions h => exact h.stands unraised other
  | store name rest drops => exact callbacks_drops drops signal
  | finish | served | next => rfl

/-- A signal has been raised by what has happened if it has been cancelled. -/
theorem raised_changed_iff (es : List Event) : (Table.changed signal es i).raised = true ↔
    (signal i).raised = true ∨ .cancel i ∈ es := by
  induction es generalizing signal with
  | nil => simp [Table.changed]
  | cons e es ih =>
    refine ih.trans ?_
    rw [List.mem_cons, ← or_assoc]
    refine or_congr_left ?_
    cases e with
    | register r callback =>
      simp only [Event.change, reduceCtorEq, or_false]
      split
      · rw [Signal.register_raised]
      · rfl
    | cancel j =>
      simp only [Event.change, Event.cancel.injEq]
      split
      · next hj =>
        subst hj
        cases hr : (signal i).raised <;> simp [Signal.raise, hr]
      · next hj => simp [hj]
    | _ => simp [Event.change]

end

/-! ## Lawful events -/

/-- What every event keeps to, by what has happened before it and by what follows on it. -/
inductive Lawful (before : List Event) : Event → List Event → Prop where
  /-- a callback that is registered on no cancelled signal does not run in the call -/
  | early {r : Registration} {callback : List Action} {after : List Event}
      (new : r.signal ≠ none → ∀ c, .register r c ∉ before)
      (h : ∀ i, r.signal = some i → .cancel i ∉ before) :
      Lawful before (.register r callback) (.done :: after)
  /-- a callback that is registered on a cancelled signal runs in the call -/
  | late {r : Registration} {callback : List Action} {after : List Event} {i : Nat}
      (new : ∀ c, .register r c ∉ before) (hr : r.signal = some i) (h : .cancel i ∈ before)
      (batch : Batch [(r, callback)] [(r, callback)] after) :
      Lawful before (.register r callback) after
  | first {i : Nat} {after : List Event} (xs : List Callback) (h : .cancel i ∉ before)
      (batch : Batch (standing i before) xs after)
      (only : ∀ x ∈ standing i before, x.1 ∈ ran after ↔ x ∈ xs) : Lawful before (.cancel i) after
  /-- to cancel a signal again does nothing -/
  | further {i : Nat} {after : List Event} (h : .cancel i ∈ before) :
      Lawful before (.cancel i) (.done :: after)
  | run {r : Registration} {callback : List Action} {after : List Event} {i : Nat}
      (registered : .register r callback ∈ before) (hr : r.signal = some i)
      (cancelled : .cancel i ∈ before) (once : r ∉ ran before) :
      Lawful before (.run r callback) after
  | drop (r : Registration) (after : List Event) : Lawful before (.drop r) after
  | done (after : List Event) : Lawful before .done after
  | panic (after : List Event) : Lawful before .panic after

/-- Whether all events of a list are lawful, between those before and those after it. -/
def AllLawful (before es after : List Event) : Prop :=
  ∀ xs e ys, es = xs ++ e :: ys → Lawful (before ++ xs) e (ys ++ after)

theorem AllLawful.nil (before after : List Event) : AllLawful before [] after := by
  intro xs e ys h
  simp at h

theorem AllLawful.cons {before es after : List Event} {e : Event}
    (h : Lawful before e (es ++ after)) (hs : AllLawful (before ++ [e]) es after) :
    AllLawful before (e :: es) after := by
  intro xs e' ys he
  cases xs with
  | nil =>
    cases he
    rwa [List.append_nil]
  | cons x xs =>
    cases he
    have := hs xs e' ys rfl
    rwa [List.append_assoc] at this

theorem AllLawful.append {before es es' after : List Event} (h : AllLawful before es (es' ++ after))
    (h' : AllLawful (before ++ es) es' after) : AllLawful before (es ++ es') after := by
  induction es generalizing before with
  | nil => rwa [List.append_nil] at h'
  | cons e es ih =>
    refine .cons ?_ (ih (fun xs e' ys he => ?_) (by rwa [List.append_assoc]))
    · have := h [] e es rfl
      rwa [List.append_nil, ← List.append_assoc] at this
    · have := h (e :: xs) e' ys (by rw [he]; rfl)
      rwa [← List.singleton_append, ← List.append_assoc] at this

theorem OnlyDrops.lawful {es : List Event} (h : OnlyDrops es) (before after : List Event) :
    AllLawful before es after := by
  intro xs e ys he
  obtain ⟨r, rfl⟩ := h e (he ▸ List.mem_append_right _ List.mem_cons_self)
  exact .drop r _

/-! ## What follows -/

/-- Whether this is what follows on a state of a running script, up to the end and after it. What
is owed to nobody at the end does not come after it. -/
def Running.Follows (r : Running) (after : List Event) : Prop :=
  ∃ n es, r.weight < n ∧ after = r.trace n ++ es ∧
    ∀ y, (r.run n).table.Known y → (r.run n).owed y = 0 → y ∉ ran es

namespace Running

variable {r : Running} {after : List Event}

theorem trace_of_nil (hs : r.stack = []) (n : Nat) : r.trace n = [] ∧ r.run n = r := by
  have stays : r.step = none := by
    simp only [step, hs]
  cases n with
  | zero => exact ⟨rfl, rfl⟩
  | succ n => simp only [trace, run, stays, and_self]

/-- A callback that is taken up runs, to its end or to a panic. -/
theorem Follows.body (follows : r.Follows after) (sound : r.Sound) {callback : List Action}
    {rest : List Frame} (hs : r.stack = .body callback :: rest) :
    (∃ inner tail, Completed inner ∧ after = inner ++ .done :: tail ∧
      ∃ next : Running, next.Sound ∧ next.stack = rest ∧ next.Follows tail) ∨
    ∃ inner tail, Unfinished inner ∧ after = inner ++ .panic :: tail := by
  obtain ⟨n, es, enough, rfl, inert⟩ := follows
  cases comes n r _ rest sound hs enough with
  | @ends _ next m goes _ stack h =>
    obtain ⟨inner, completed, rfl⟩ := h
    rw [goes.run] at inert
    refine .inl ⟨inner, next.trace m ++ es, completed, ?_, next, goes.sound, stack, m, es, goes.enough,
      rfl, inert⟩
    rw [goes.trace]
    simp
  | @breaks _ next m goes stack h owes =>
    refine .inr ⟨_, next.trace m ++ es, h, ?_⟩
    rw [goes.trace]
    simp

/-- A callback that is registered too late runs in the call that registers it. -/
theorem Follows.late (follows : r.Follows after) (sound : r.Sound) {callback : List Action}
    {name : String} {rest : List Frame} (hs : r.stack = .body callback :: .registering name :: rest)
    (y : Registration) : Batch [(y, callback)] [(y, callback)] (.run y callback :: after) := by
  rcases follows.body sound hs with ⟨inner, tail, completed, rfl, next, sound', stack, n, es, enough,
    rfl, -⟩ | ⟨inner, tail, unfinished, rfl⟩
  · cases comes n next _ rest sound' stack enough with
    | @ends _ last m goes _ _ h =>
      obtain ⟨drops, -, rfl⟩ := h
      have served : Served [(y, callback)] (.run y callback :: (inner ++ .done :: [])) :=
        .cons (y, callback) completed .nil
      have batch := Batch.returns served (drops ++ last.trace m ++ es)
      rw [goes.trace]
      simpa using batch
    | breaks _ _ h => exact h.elim
  · exact .panics [] (y, callback) [] rfl .nil unfinished tail

/-- A call that cancels a signal runs the callbacks that it has taken. -/
theorem Follows.cancelling (follows : r.Follows after) (sound : r.Sound) {i : Nat}
    {ws : List (Waiting (List Action))} {rest : List Frame}
    (hs : r.stack = .cancelling i ws :: rest) (raised : (r.table.signal i).raised = true) :
    ∃ xs, Batch (callbacks i ws) xs after ∧ ∀ x ∈ callbacks i ws, x.1 ∈ ran after ↔ x ∈ xs := by
  obtain ⟨n, es, enough, rfl, inert⟩ := follows
  cases comes n r _ rest sound hs enough with
  | @ends _ next m goes _ stack h =>
    obtain ⟨inner, served, rfl⟩ := h
    have split : r.trace n ++ es = inner ++ .done :: (next.trace m ++ es) := by
      rw [goes.trace]
      simp
    rw [split]
    refine ⟨_, .returns served _, fun x hx => iff_of_true (mem_ran.mpr ⟨x.2, ?_⟩) hx⟩
    exact List.mem_append_left _ (served.ran hx)
  | @breaks _ next m goes stack h owes =>
    obtain ⟨ys, x, zs, inner, body, hx, served, unfinished, rfl, lost⟩ := h
    obtain ⟨nothing, ended⟩ := trace_of_nil stack m
    have split : r.trace n ++ es = inner ++ .run x.1 x.2 :: (body ++ .panic :: es) := by
      rw [goes.trace, nothing]
      simp
    rw [split]
    refine ⟨_, .panics ys x zs hx served unfinished es, fun z hz => ⟨fun ran => ?_, fun hz => ?_⟩⟩
    · rw [hx, List.append_cons] at hz
      refine (List.mem_append.mp hz).resolve_right fun hz => ?_
      -- a callback that is left behind has been registered, and nobody owes it anything any more
      have left : z ∈ callbacks i ws := hx ▸ List.mem_append_right _ (List.mem_cons_of_mem x hz)
      obtain ⟨w, hw, hz'⟩ := List.mem_map.mp left
      have due : 0 < (registrations i ws).count z.1 :=
        List.count_pos_iff.mpr (hz' ▸ List.mem_map.mpr ⟨w, hw, rfl⟩)
      have owed := Nat.lt_of_lt_of_le due
        (Nat.le_trans (Nat.le_add_right _ _) (due_le_owed hs z.1))
      have known := (goes.owes z.1 (sound.known z.1 owed)).1
      have nothing : next.owed z.1 = 0 := by
        have waiting := goes.sound.sane.raised i (goes.raised i raised)
        rw [Running.owed, stack, waits, ← hz']
        simp [waiting, dueIn, registrations]
      rw [goes.run, ended] at inert
      have split : inner ++ .run x.1 x.2 :: (body ++ .panic :: es) =
          (inner ++ .run x.1 x.2 :: body) ++ .panic :: es := by simp
      rw [split, ran_append] at ran
      exact (List.mem_append.mp ran).elim (lost z hz) (inert z.1 known nothing)
    · refine mem_ran.mpr ⟨z.2, ?_⟩
      rcases List.mem_append.mp hz with hz | hz
      · exact List.mem_append_left _ (served.ran hz)
      · obtain rfl := List.mem_singleton.mp hz
        exact List.mem_append_right _ List.mem_cons_self

end Running

/-! ## What has happened and how a script stands -/

/-- Whether a running script stands as what has happened says. -/
structure Books (before : List Event) (r : Running) : Prop where
  sound : r.Sound
  raised : ∀ i, (r.table.signal i).raised = true ↔ .cancel i ∈ before
  waiting : ∀ i, .cancel i ∉ before → callbacks i (r.table.signal i).waiting = standing i before
  registered : ∀ y c, .register y c ∈ before → y.signal ≠ none → r.table.Known y
  due : ∀ i ws, .cancelling i ws ∈ r.stack → .cancel i ∈ before ∧
    ∀ x ∈ callbacks i ws, .register x.1 x.2 ∈ before
  /-- nothing is owed to a callback that has run -/
  ran : ∀ y ∈ ran before, r.table.Known y ∧ r.owed y = 0

namespace Books

variable {before es after : List Event} {r next : Running} {stack : List Frame}

/-- How a script stands after something has happened, by what it has done to the stack. -/
theorem advance (books : Books before r) (sound : next.Sound)
    (signals : next.table.signal = Table.changed r.table.signal es)
    (numbers : ∀ y ∈ Cancellation.registered es, ∃ i, y.signal = some i ∧
      y.id = (r.table.signal i).nextId ∧ y.id < (Table.changed r.table.signal es i).nextId)
    (once : ∀ y, (Cancellation.ran es).count y + next.owed y ≤ 1)
    (owes : ∀ y, r.table.Known y → next.table.Known y ∧
      (Cancellation.ran es).count y + next.owed y ≤ r.owed y)
    (runs : ∀ y ∈ Cancellation.ran es, y ∈ Cancellation.registered es ∨ y ∈ dueIn r.stack)
    (stands : ∀ i, (r.table.signal i).raised = false → .cancel i ∉ es →
      callbacks i (Table.changed r.table.signal es i).waiting =
        es.foldl (Event.stands i) (callbacks i (r.table.signal i).waiting))
    (due : ∀ i ws, .cancelling i ws ∈ next.stack → .cancel i ∈ before ++ es ∧
      ∀ x ∈ callbacks i ws, .register x.1 x.2 ∈ before) : Books (before ++ es) next where
  sound := sound
  raised i := by
    rw [signals, raised_changed_iff, books.raised i, List.mem_append]
  waiting i hc := by
    rw [List.mem_append, not_or] at hc
    have unraised : (r.table.signal i).raised = false :=
      Bool.eq_false_iff.mpr fun h => hc.1 ((books.raised i).mp h)
    rw [signals, stands i unraised hc.2, books.waiting i hc.1, standing, standing, List.foldl_append]
  registered y c h hy := by
    rcases List.mem_append.mp h with h | h
    · exact (owes y (books.registered y c h hy)).1
    · have here : y ∈ Cancellation.registered es := by
        refine List.mem_filterMap.mpr ⟨_, h, ?_⟩
        cases hs : y.signal with
        | none => exact absurd hs hy
        | some i => simp [Event.registered?, hs]
      obtain ⟨i, hi, -, below⟩ := numbers y here
      rw [← signals] at below
      exact ⟨i, hi, below⟩
  due i ws hf := ⟨(due i ws hf).1, fun x hx => List.mem_append_left _ ((due i ws hf).2 x hx)⟩
  ran y hy := by
    rw [ran_append] at hy
    rcases List.mem_append.mp hy with hy | hy
    · obtain ⟨known, nothing⟩ := books.ran y hy
      obtain ⟨known', fewer⟩ := owes y known
      exact ⟨known', by omega⟩
    · have := List.count_pos_iff.mpr hy
      have := once y
      refine ⟨?_, by omega⟩
      rcases runs y hy with hy | hy
      · obtain ⟨i, hi, -, below⟩ := numbers y hy
        rw [← signals] at below
        exact ⟨i, hi, below⟩
      · have owed : 0 < r.owed y :=
          Nat.lt_of_lt_of_le (List.count_pos_iff.mpr hy) (Nat.le_add_right _ _)
        exact (owes y (books.sound.known y owed)).1

/-- What a call to cancel a signal takes has been registered. -/
theorem taken (books : Books before r) {i : Nat} {x : Callback}
    (hx : x ∈ callbacks i (r.table.signal i).raise.1) :
    .cancel i ∉ before ∧ x ∈ standing i before := by
  simp only [Signal.raise] at hx
  split at hx
  · cases hx
  · next h =>
    have uncancelled := fun hc => h ((books.raised i).mpr hc)
    exact ⟨uncancelled, books.waiting i uncancelled ▸ hx⟩

/-- What happens when an action is performed is lawful. -/
theorem lawful_performs (books : Books before r) (h : Performs r.table.signal stack es next.stack)
    (sound : next.Sound) (signals : next.table.signal = Table.changed r.table.signal es)
    (follows : next.Follows after) : AllLawful before es after := by
  generalize hn : next.stack = stack' at h
  cases h with
  | quiet drops => exact drops.lawful before after
  | register y c early drops =>
    refine .cons (.early (fun hy d hd => ?_) fun i hi hc => ?_)
      (.cons (.done _) (drops.lawful _ after))
    · obtain ⟨i, hi⟩ := Option.ne_none_iff_exists'.mp hy
      exact r.table.unknown hi (early i hi).2 (books.registered y d hd hy)
    · have := (books.raised i).mpr hc
      rw [(early i hi).1] at this
      cases this
  | late i c name raised =>
    have new := r.table.unknown (y := ⟨some i, (r.table.signal i).nextId⟩) rfl rfl
    have cancelled := (books.raised i).mp raised
    refine .cons (.late (fun d hd => new (books.registered _ d hd nofun)) rfl cancelled
      (follows.late sound hn _)) (.cons (.run ?_ rfl (List.mem_append_left _ cancelled) ?_) (.nil _ _))
    · exact List.mem_append_right _ List.mem_cons_self
    · rw [ran_append]
      intro hy
      rcases List.mem_append.mp hy with hy | hy
      · exact new (books.ran _ hy).1
      · cases hy
  | cancel i =>
    have raised : (next.table.signal i).raised = true := by
      rw [signals, raised_changed_iff]
      exact .inr List.mem_cons_self
    obtain ⟨xs, batch, only⟩ := follows.cancelling sound hn raised
    refine .cons ?_ (.nil _ _)
    by_cases hc : .cancel i ∈ before
    · have none : (r.table.signal i).raise.1 = [] := by
        simp [Signal.raise, (books.raised i).mpr hc]
      rw [none] at batch
      cases batch with
      | returns served tail =>
        cases served
        exact .further hc
      | panics ys x zs hx => simp [callbacks] at hx
    · have unraised : (r.table.signal i).raised = false :=
        Bool.eq_false_iff.mpr fun h => hc ((books.raised i).mp h)
      have all : callbacks i (r.table.signal i).raise.1 = standing i before := by
        rw [← books.waiting i hc]
        simp [Signal.raise, unraised]
      rw [all] at batch only
      exact .first xs hc batch only
  | panic => exact .cons (.panic _) (.nil _ _)

/-- What happens in a step is lawful. -/
theorem lawful_steps (books : Books before r) (h : Steps r.table.signal r.stack es next.stack)
    (sound : next.Sound) (signals : next.table.signal = Table.changed r.table.signal es)
    (follows : next.Follows after) : AllLawful before es after := by
  generalize hr : r.stack = old at h
  generalize hn : next.stack = stack' at h
  cases h with
  | finish | served => exact .cons (.done _) (.nil _ _)
  | perform a actions h => exact books.lawful_performs (hn ▸ h) sound signals follows
  | next i w ws rest =>
    obtain ⟨cancelled, registered⟩ := books.due i (w :: ws) (hr ▸ List.mem_cons_self)
    refine .cons (.run (registered (⟨some i, w.id⟩, w.callback) List.mem_cons_self) rfl cancelled
      fun ran => ?_) (.nil _ _)
    have owed := Running.due_le_owed hr ⟨some i, w.id⟩
    have due : 0 < (registrations i (w :: ws)).count ⟨some i, w.id⟩ :=
      List.count_pos_iff.mpr List.mem_cons_self
    have nothing := (books.ran _ ran).2
    dsimp only [Frame.due] at owed
    omega
  | store name rest drops => exact .cons (.done _) (drops.lawful _ after)

/-- What has been taken to be run has been registered, on a signal that is cancelled. -/
theorem due_performs (books : Books before r) {stack' : List Frame}
    (h : Performs r.table.signal stack es stack')
    (old : ∀ i ws, .cancelling i ws ∈ stack → .cancelling i ws ∈ r.stack) (i : Nat)
    (ws : List (Waiting (List Action))) (hf : .cancelling i ws ∈ stack') :
    .cancel i ∈ before ++ es ∧ ∀ x ∈ callbacks i ws, .register x.1 x.2 ∈ before := by
  have stays (hf : .cancelling i ws ∈ stack) :
      .cancel i ∈ before ++ es ∧ ∀ x ∈ callbacks i ws, .register x.1 x.2 ∈ before := by
    obtain ⟨cancelled, registered⟩ := books.due i ws (old i ws hf)
    exact ⟨List.mem_append_left _ cancelled, registered⟩
  cases h with
  | quiet | register => exact stays hf
  | late j c name raised =>
    simp only [List.mem_cons, reduceCtorEq, false_or] at hf
    exact stays hf
  | cancel j =>
    rcases List.mem_cons.mp hf with hf | hf
    · cases hf
      exact ⟨List.mem_append_right _ List.mem_cons_self, fun x hx =>
        (mem_standing (books.taken hx).2).1⟩
    · exact stays hf
  | panic => cases hf

theorem due_steps (books : Books before r) {stack' : List Frame}
    (h : Steps r.table.signal r.stack es stack') (i : Nat) (ws : List (Waiting (List Action)))
    (hf : .cancelling i ws ∈ stack') :
    .cancel i ∈ before ++ es ∧ ∀ x ∈ callbacks i ws, .register x.1 x.2 ∈ before := by
  have stays {ws' : List (Waiting (List Action))} (sub : ws ⊆ ws')
      (hf : .cancelling i ws' ∈ r.stack) :
      .cancel i ∈ before ++ es ∧ ∀ x ∈ callbacks i ws, .register x.1 x.2 ∈ before := by
    obtain ⟨cancelled, registered⟩ := books.due i ws' hf
    exact ⟨List.mem_append_left _ cancelled, fun x hx => registered x (List.map_subset _ sub hx)⟩
  generalize hr : r.stack = old at h
  cases h with
  | finish | served | store =>
    exact stays (List.Subset.refl ws) (hr ▸ List.mem_cons_of_mem _ hf)
  | perform a actions h =>
    refine books.due_performs h (fun j vs hv => ?_) i ws hf
    rw [hr]
    simp only [List.mem_cons, reduceCtorEq, false_or] at hv ⊢
    exact hv
  | next j w vs rest =>
    simp only [List.mem_cons, reduceCtorEq, false_or] at hf
    rcases hf with hf | hf
    · cases hf
      exact stays (List.subset_cons_self w ws) (hr ▸ List.mem_cons_self)
    · exact stays (List.Subset.refl ws) (hr ▸ List.mem_cons_of_mem _ hf)

theorem perform (books : Books before r) (a : Action) :
    Books (before ++ r.table.performs a) (r.perform a) := by
  obtain ⟨sound, once, owes⟩ := books.sound.perform a
  have h := r.performs a
  exact books.advance sound (Running.perform_signal books.sound.sane a) h.numbers.2 once owes
    (fun _ hy => .inl (h.runs hy)) (fun i => h.stands) (books.due_performs h fun _ _ => id)

theorem step (books : Books before r) (h : r.step = some next) :
    Books (before ++ r.events) next := by
  obtain ⟨sound, once, owes⟩ := books.sound.step h
  have steps := Running.steps h
  exact books.advance sound (Running.step_signal books.sound.sane h) steps.numbers.2 once owes
    (fun _ hy => steps.runs hy) (fun i => steps.stands) (books.due_steps steps)

/-- Everything that happens up to the end of a running script is lawful. -/
theorem run (n : Nat) (books : Books before r) (enough : r.weight < n) (es : List Event)
    (inert : ∀ y, (r.run n).table.Known y → (r.run n).owed y = 0 → y ∉ Cancellation.ran es) :
    AllLawful before (r.trace n) es ∧ Books (before ++ r.trace n) (r.run n) := by
  induction n generalizing r before with
  | zero => exact absurd enough (Nat.not_lt_zero _)
  | succ n ih =>
    cases h : r.step with
    | none =>
      simp only [Running.trace, Running.run, h]
      rw [List.append_nil]
      exact ⟨.nil _ _, books⟩
    | some next =>
      simp only [Running.trace, Running.run, h] at inert ⊢
      have lighter := Running.step_weight books.sound.sane h
      obtain ⟨lawful, books'⟩ := ih (books.step h) (by omega) inert
      rw [← List.append_assoc]
      refine ⟨.append ?_ lawful, books'⟩
      exact books.lawful_steps (Running.steps h) (books.step h).sound
        (Running.step_signal books.sound.sane h) ⟨n, es, by omega, rfl, inert⟩

end Books

/-! ## Scripts -/

/-- What a log and an answer say is of no importance to what happens. -/
theorem Running.Sound.relabel {r : Running} (h : r.Sound) (log : List LogEntry) (x : Answer) :
    (⟨r.stack, { r.table with log := log }, x⟩ : Running).Sound :=
  ⟨⟨⟨h.sane.sources, h.sane.tokens⟩, h.sane.plain, h.sane.raised⟩, h.single, h.known⟩

theorem Books.relabel {before : List Event} {r : Running} (h : Books before r) (log : List LogEntry)
    (x : Answer) : Books before ⟨r.stack, { r.table with log := log }, x⟩ :=
  ⟨h.sound.relabel log x, h.raised, h.waiting, h.registered, h.due, h.ran⟩

namespace Table

variable {t : Table} {before : List Event}

/-- How an action at the outermost level ends. -/
def ended (t : Table) (a : Action) : Running := (t.began a).run ((t.began a).weight + 1)

theorem perform_eq (t : Table) (a : Action) :
    (t.perform a).2 = { (t.ended a).table with log := [] } := rfl

theorem performs_eq (t : Table) (a : Action) : ({ t with log := [] } : Table).performs a =
    t.performs a := by
  cases a <;> rfl

/-- Between two actions at the outermost level a script is as at the end of the first. -/
theorem between {a : Action} (sound : (t.began a).Sound) :
    (⟨[], (t.perform a).2, .nothing⟩ : Running) =
      ⟨(t.ended a).stack, { (t.ended a).table with log := [] }, .nothing⟩ := by
  obtain ⟨-, stack, -⟩ := sound.run _ (Nat.lt_succ_self _)
  have stack : (t.ended a).stack = [] := stack
  rw [stack, perform_eq]

/-- Callbacks that have been registered and that nobody owes anything do not run any more. -/
theorem inert (actions : List Action) (sound : (⟨[], t, .nothing⟩ : Running).Sound) :
    ∀ y, t.Known y → (⟨[], t, .nothing⟩ : Running).owed y = 0 → y ∉ ran (t.traceAll actions) := by
  induction actions generalizing t with
  | nil => exact fun _ _ _ => List.not_mem_nil
  | cons a actions ih =>
    intro y known nothing
    obtain ⟨began, -, owes⟩ := (sound.relabel [] .nothing).perform a
    have began : (t.began a).Sound := began
    obtain ⟨ended, -, owes'⟩ := began.run _ (Nat.lt_succ_self _)
    have next := ended.relabel [] .nothing
    rw [← Table.ended, ← between began] at next
    obtain ⟨known', before⟩ := owes y known
    obtain ⟨known'', after⟩ := owes' y known'
    rw [performs_eq] at before
    have before : (ran (t.performs a)).count y + (t.began a).owed y ≤
        (⟨[], t, .nothing⟩ : Running).owed y := before
    have after : (ran ((t.began a).trace ((t.began a).weight + 1))).count y + (t.ended a).owed y ≤
        (t.began a).owed y := after
    have rest := ih next y known'' (by
      rw [between began]
      show (t.ended a).owed y = 0
      omega)
    rw [traceAll, trace, ran_append, ran_append, List.mem_append, List.mem_append, not_or, not_or]
    exact ⟨⟨List.count_eq_zero.mp (by omega), List.count_eq_zero.mp (by omega)⟩, rest⟩

theorem traceAll_lawful (actions : List Action) (books : Books before ⟨[], t, .nothing⟩) :
    AllLawful before (t.traceAll actions) [] := by
  induction actions generalizing t before with
  | nil => exact .nil _ _
  | cons a actions ih =>
    have books := books.relabel [] .nothing
    have began := books.perform a
    rw [performs_eq] at began
    have began : Books (before ++ t.performs a) (t.began a) := began
    have same := between (t := t) (a := a) began.sound
    have rest : ∀ y, (t.ended a).table.Known y → (t.ended a).owed y = 0 →
        y ∉ ran ((t.perform a).2.traceAll actions) := by
      obtain ⟨ended, -, -⟩ := began.sound.run _ (Nat.lt_succ_self _)
      have next := ended.relabel [] .nothing
      rw [← Table.ended, ← same] at next
      refine fun y known nothing => inert actions next y known ?_
      rw [same]
      exact nothing
    obtain ⟨lawful, books'⟩ := began.run _ (Nat.lt_succ_self _) _ rest
    have books' := books'.relabel [] .nothing
    rw [← Table.ended, ← same] at books'
    have last := ih books'
    rw [traceAll, trace, List.append_assoc]
    refine .append ?_ (.append (by rwa [List.append_nil]) last)
    rw [List.append_nil, ← performs_eq]
    exact books.lawful_performs (Running.performs _ a) began.sound
      (Running.perform_signal books.sound.sane a) ⟨_, _, Nat.lt_succ_self _, rfl, rest⟩

end Table

/-- Nothing has happened to a script that has not begun. -/
theorem Books.empty : Books [] ⟨[], Table.empty, .nothing⟩ := by
  have fresh (i : Nat) : Table.empty.signal i = Signal.fresh := by
    rw [Table.signal, getD_of_size_le (Nat.zero_le i)]
  have nothing (y : Registration) : (⟨[], Table.empty, .nothing⟩ : Running).owed y = 0 := by
    rw [Running.owed, waits]
    split
    · rfl
    · rw [fresh]
      rfl
  refine ⟨⟨Table.sane_empty, fun y => ?_, fun y h => ?_⟩, fun i => ?_, fun i _ => ?_, ?_, ?_, ?_⟩
  · rw [nothing]
    exact Nat.zero_le 1
  · rw [nothing] at h
    exact absurd h (Nat.lt_irrefl 0)
  · rw [fresh]
    simp [Signal.fresh]
  · rw [fresh]
    rfl
  · rintro _ _ ⟨⟩
  · rintro _ _ ⟨⟩
  · rintro _ ⟨⟩

/-- Every event of a script is lawful. -/
theorem scriptTrace_lawful (actions : List Action) : AllLawful [] (scriptTrace actions) [] :=
  Table.traceAll_lawful actions .empty

/-- When the callbacks of a script run. -/
structure RunWhenDue (es : List Event) : Prop where
  /-- callbacks are told apart by their registrations -/
  distinct : (registered es).Nodup
  /-- no callback runs twice -/
  once : (ran es).Nodup
  /-- a callback that runs has been registered, on a signal that has been cancelled -/
  due : ∀ before y c after, es = before ++ .run y c :: after →
    .register y c ∈ before ∧ ∃ i, y.signal = some i ∧ .cancel i ∈ before
  /-- a callback that is registered on no signal never runs -/
  never : Registration.nothing ∉ ran es
  /-- the first call that cancels a signal runs the callbacks that wait on it, in the order of their
  registration, before it is over; if one panics, the callbacks up to it have run, and the others
  never run -/
  first : ∀ before i after, es = before ++ .cancel i :: after → .cancel i ∉ before →
    ∃ xs, Batch (standing i before) xs after ∧ ∀ x ∈ standing i before, x.1 ∈ ran es ↔ x ∈ xs
  /-- a further call, even one that is made by a callback, runs nothing -/
  further : ∀ before i after, es = before ++ .cancel i :: after → .cancel i ∈ before →
    ∃ rest, after = .done :: rest
  /-- a callback that is registered on a signal that has been cancelled runs in the call that
  registers it, before that is over -/
  late : ∀ before y c after i, es = before ++ .register y c :: after → y.signal = some i →
    .cancel i ∈ before → Batch [(y, c)] [(y, c)] after
  /-- on any other signal it does not run in that call -/
  early : ∀ before y c after, es = before ++ .register y c :: after →
    (∀ i, y.signal = some i → .cancel i ∉ before) → ∃ rest, after = .done :: rest

section

variable {es : List Event}

/-- If no event tells the same as one before it, all tell different things. -/
theorem nodup_filterMap {f : Event → Option Registration}
    (h : ∀ before e after y, es = before ++ e :: after → f e = some y → y ∉ before.filterMap f) :
    (es.filterMap f).Nodup := by
  suffices ∀ before after, es = before ++ after → (before.filterMap f).Nodup from
    this es [] (List.append_nil es).symm
  intro before
  induction before using List.reverseRecOn with
  | nil => exact fun _ _ => List.nodup_nil
  | append_singleton before e ih =>
    intro after he
    rw [List.append_assoc] at he
    rw [List.filterMap_append, List.nodup_append]
    refine ⟨ih _ he, ?_, ?_⟩
    · cases hf : f e <;> simp [hf]
    · rintro y hy z hz rfl
      refine h before e after y he ?_ hy
      cases hf : f e <;> simp_all

theorem runWhenDue (lawful : AllLawful [] es []) : RunWhenDue es := by
  have law {before after : List Event} {e : Event} (he : es = before ++ e :: after) :
      Lawful before e after := by
    have := lawful before e after he
    rwa [List.nil_append, List.append_nil] at this
  have due {before after : List Event} {y : Registration} {c : List Action}
      (he : es = before ++ .run y c :: after) :
      .register y c ∈ before ∧ ∃ i, y.signal = some i ∧ .cancel i ∈ before := by
    cases law he with
    | run registered hr cancelled => exact ⟨registered, _, hr, cancelled⟩
  have dueOf {y : Registration} (hy : y ∈ ran es) : ∃ i, y.signal = some i := by
    obtain ⟨c, hc⟩ := mem_ran.mp hy
    obtain ⟨before, after, he⟩ := List.append_of_mem hc
    obtain ⟨-, i, hi, -⟩ := due he
    exact ⟨i, hi⟩
  refine ⟨nodup_filterMap ?_, nodup_filterMap ?_, fun _ _ _ _ => due, fun hy => ?_, ?_, ?_, ?_, ?_⟩
  · intro before e after y he hy hm
    obtain ⟨⟨c, rfl⟩, real⟩ := of_registered? hy
    obtain ⟨e, hm, hy⟩ := List.mem_filterMap.mp hm
    obtain ⟨⟨d, rfl⟩, -⟩ := of_registered? hy
    cases law he with
    | early new => exact new real d hm
    | late new => exact new d hm
  · intro before e after y he hy hm
    cases law he with
    | run _ _ _ once =>
      cases hy
      exact once hm
    | _ => cases hy
  · obtain ⟨i, hi⟩ := dueOf hy
    cases hi
  · intro before i after he hc
    cases law he with
    | first xs _ batch only =>
      refine ⟨xs, batch, fun x hx => ?_⟩
      have split : ran es = ran before ++ ran after := by
        rw [he, ran_append]
        rfl
      rw [split, List.mem_append, ← only x hx]
      refine or_iff_right fun early => hc ?_
      -- what runs before the call has been registered on a signal that is cancelled before it
      obtain ⟨c, early⟩ := mem_ran.mp early
      obtain ⟨old, new, rfl⟩ := List.append_of_mem early
      rw [List.append_assoc] at he
      obtain ⟨-, j, hj, cancelled⟩ := due he
      cases (mem_standing hx).2.symm.trans hj
      exact List.mem_append_left _ cancelled
    | further h => exact absurd h hc
  · intro before i after he hc
    cases law he with
    | first xs h => exact absurd hc h
    | further => exact ⟨_, rfl⟩
  · intro before y c after i he hy hc
    cases law he with
    | early _ h => exact absurd hc (h i hy)
    | late _ _ _ batch => exact batch
  · intro before y c after he h
    cases law he with
    | early => exact ⟨_, rfl⟩
    | late _ hr hc => exact absurd hc (h _ hr)

end

/-- In every script, callbacks run when they are due, and once. -/
theorem callbacks_run_once (actions : List Action) : RunWhenDue (scriptTrace actions) :=
  runWhenDue (scriptTrace_lawful actions)

/-- The second of three callbacks panics, after the first has registered a fourth. -/
example : ran (scriptTrace [.newSource "s", .newToken "t" "s",
    .register "a" "t" [.register "d" "t" []], .register "b" "t" [.panic "failed"],
    .register "c" "t" [], .cancel "s", .cancel "s", .register "e" "t" []]) =
      [⟨some 0, 1⟩, ⟨some 0, 4⟩, ⟨some 0, 2⟩, ⟨some 0, 5⟩] := by
  decide

end EmbeddedPython.Cancellation
