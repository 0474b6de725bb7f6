import EmbeddedPython.Cancellation.Script
import EmbeddedPython.Proofs.Cancellation.Withdrawal

/-
  What happens when a script runs

  The events of a run are read off its states: a step that performs an action
  registers a callback, drops a registration or cancels a signal, and a step
  that takes up a callback runs it. Calls are bracketed, by the event that
  begins them and by `done`. The events of a step say all that the step does to
  the signals, and `Steps` says what it does to the stack.
-/

namespace EmbeddedPython.Cancellation

/-- Something that happens when a script runs. -/
inductive Event where
  /-- a call begins that registers a callback -/
  | register (r : Registration) (callback : List Action)
  /-- a registration is given up -/
  | drop (r : Registration)
  /-- a call begins that cancels a signal -/
  | cancel (signal : Nat)
  /-- a callback begins to run -/
  | run (r : Registration) (callback : List Action)
  /-- the innermost call or callback that has begun is over -/
  | done
  /-- a callback panics, which ends every call and every callback -/
  | panic

namespace Table

def signal (t : Table) (i : Nat) : Signal (List Action) := t.signals.getD i Signal.fresh

/-- What is given up when a name is given another registration. -/
def forgets (t : Table) (name : String) : List Event :=
  (t.registrations.lookup name).toList.map .drop

/-- What happens at once when an action is performed. -/
def performs (t : Table) : Action → List Event
  | .register name token callback =>
    match (t.token? token).bind (·.signal) with
    | none => .register Registration.nothing callback :: .done :: t.forgets name
    | some i =>
      let r : Registration := ⟨some i, (t.signal i).nextId⟩
      if (t.signal i).raised then [.register r callback, .run r callback]
      else .register r callback :: .done :: t.forgets name
  | .giveUp name => t.forgets name
  | .cancel source => (t.source? source).toList.map .cancel
  | .panic _ => [.panic]
  | _ => []

end Table

namespace Running

/-- What happens in the next step. -/
def events (r : Running) : List Event :=
  match r.stack with
  | [] => []
  | .body [] :: _ => [.done]
  | .body (a :: _) :: _ => r.table.performs a
  | .cancelling _ [] :: _ => [.done]
  | .cancelling i (w :: _) :: _ => [.run ⟨some i, w.id⟩ w.callback]
  | .registering name :: _ => .done :: r.table.forgets name

/-- What happens in so many steps. -/
def trace : Nat → Running → List Event
  | 0, _ => []
  | fuel + 1, r =>
    match r.step with
    | none => []
    | some next => r.events ++ next.trace fuel

end Running

/-- How an action at the outermost level begins. -/
def Table.began (t : Table) (a : Action) : Running :=
  Running.perform ⟨[], { t with log := [] }, .nothing⟩ a

/-- What happens when an action is performed at the outermost level. -/
def Table.trace (t : Table) (a : Action) : List Event :=
  t.performs a ++ (t.began a).trace ((t.began a).weight + 1)

/-- What happens when actions are performed in order. -/
def Table.traceAll (t : Table) : List Action → List Event
  | [] => []
  | a :: actions => t.trace a ++ (t.perform a).2.traceAll actions

/-- What happens when a script is run. -/
def scriptTrace (actions : List Action) : List Event := Table.empty.traceAll actions

/-! ## What a step does to the stack -/

/-- Whether nothing happens but that registrations are given up. -/
def OnlyDrops (es : List Event) : Prop := ∀ e ∈ es, ∃ r, e = .drop r

theorem Table.forgets_drops (t : Table) (name : String) : OnlyDrops (t.forgets name) := by
  intro e he
  obtain ⟨r, -, rfl⟩ := List.mem_map.mp he
  exact ⟨r, rfl⟩

/-- What performing an action can come to, above a stack. -/
inductive Performs (signal : Nat → Signal (List Action)) (stack : List Frame) :
    List Event → List Frame → Prop where
  | quiet {es : List Event} (drops : OnlyDrops es) : Performs signal stack es stack
  /-- a callback is registered, to run later if it is registered on anything -/
  | register {es : List Event} (r : Registration) (callback : List Action)
      (early : ∀ i, r.signal = some i → (signal i).raised = false ∧ r.id = (signal i).nextId)
      (drops : OnlyDrops es) : Performs signal stack (.register r callback :: .done :: es) stack
  /-- a callback runs at once -/
  | late (i : Nat) (callback : List Action) (name : String) (raised : (signal i).raised = true) :
      Performs signal stack
        [.register ⟨some i, (signal i).nextId⟩ callback, .run ⟨some i, (signal i).nextId⟩ callback]
        (.body callback :: .registering name :: stack)
  | cancel (i : Nat) :
      Performs signal stack [.cancel i] (.cancelling i (signal i).raise.1 :: stack)
  | panic : Performs signal stack [.panic] []

/-- What a step can come to. -/
inductive Steps (signal : Nat → Signal (List Action)) :
    List Frame → List Event → List Frame → Prop where
  | finish (rest : List Frame) : Steps signal (.body [] :: rest) [.done] rest
  | perform {rest stack : List Frame} {es : List Event} (a : Action) (actions : List Action)
      (h : Performs signal (.body actions :: rest) es stack) :
      Steps signal (.body (a :: actions) :: rest) es stack
  | served (i : Nat) (rest : List Frame) : Steps signal (.cancelling i [] :: rest) [.done] rest
  | next (i : Nat) (w : Waiting (List Action)) (ws : List (Waiting (List Action)))
      (rest : List Frame) : Steps signal (.cancelling i (w :: ws) :: rest)
        [.run ⟨some i, w.id⟩ w.callback] (.body w.callback :: .cancelling i ws :: rest)
  | store {es : List Event} (name : String) (rest : List Frame) (drops : OnlyDrops es) :
      Steps signal (.registering name :: rest) (.done :: es) rest

namespace Running

@[simp] theorem deliver_stack (r : Running) (a : Answer) : (r.deliver a).stack = r.stack := by
  obtain ⟨stack, table, answer⟩ := r
  cases stack <;> cases a <;> rfl

@[simp] theorem deliver_signals (r : Running) (a : Answer) :
    (r.deliver a).table.signals = r.table.signals := by
  obtain ⟨stack, table, answer⟩ := r
  cases stack <;> cases a <;> rfl

theorem performs (r : Running) (a : Action) :
    Performs r.table.signal r.stack (r.table.performs a) (r.perform a).stack := by
  have quiet : Performs r.table.signal r.stack [] r.stack := .quiet (by simp [OnlyDrops])
  cases a with
  | register name token callback =>
    simp only [perform, Table.performs]
    cases (r.table.token? token).bind (·.signal) with
    | none =>
      rw [deliver_stack]
      exact .register _ _ (by simp [Registration.nothing]) (r.table.forgets_drops name)
    | some i =>
      have same : r.table.signals.getD i Signal.fresh = r.table.signal i := rfl
      cases raised : (r.table.signal i).raised with
      | true =>
        simp only [same, raised, Signal.register_of_raised _ _ raised, if_true]
        exact .late i callback name raised
      | false =>
        simp only [same, raised, Signal.register_of_unraised _ _ raised, Bool.false_eq_true, if_false,
          deliver_stack]
        refine .register _ _ (fun j hj => ?_) (r.table.forgets_drops name)
        cases hj
        exact ⟨raised, rfl⟩
  | giveUp name =>
    simp only [perform, Table.performs]
    split <;> rw [deliver_stack] <;> exact .quiet (r.table.forgets_drops name)
  | cancel source =>
    simp only [perform, Table.performs]
    cases r.table.source? source with
    | none =>
      rw [deliver_stack]
      exact quiet
    | some i => exact .cancel i
  | panic text => exact .panic
  | _ =>
    simp only [perform, deliver_stack]
    exact quiet

theorem steps {r next : Running} (h : r.step = some next) :
    Steps r.table.signal r.stack r.events next.stack := by
  obtain ⟨stack, table, answer⟩ := r
  cases stack with
  | nil => cases h
  | cons frame rest =>
    cases frame with
    | body actions =>
      cases actions with
      | nil =>
        cases h
        exact .finish rest
      | cons a actions =>
        cases h
        exact .perform a actions (performs ⟨.body actions :: rest, table, answer⟩ a)
    | cancelling i callbacks =>
      cases callbacks with
      | nil =>
        cases h
        rw [deliver_stack]
        exact .served i rest
      | cons w ws =>
        cases h
        exact .next i w ws rest
    | registering name =>
      cases h
      rw [deliver_stack]
      exact .store name rest (table.forgets_drops name)

end Running

/-! ## What a step does to the signals -/

/-- What an event does to the signals. -/
def Event.change (signal : Nat → Signal (List Action)) : Event → Nat → Signal (List Action)
  | .register r callback, i =>
    if r.signal = some i then ((signal i).register callback []).2 else signal i
  | .drop r, i =>
    { signal i with waiting := (signal i).waiting.filter fun w => r != ⟨some i, w.id⟩ }
  | .cancel j, i => if i = j then (signal i).raise.2 else signal i
  | _, i => signal i

/-- Whether the names of a table mean signals that there are. -/
structure Table.Named (t : Table) : Prop where
  sources : ∀ x ∈ t.sources, x.2 < t.signals.size
  tokens : ∀ x ∈ t.tokens, x.2.Within t.signals.size

/-- What every table of a running script keeps to. -/
structure Table.Sane (t : Table) : Prop extends t.Named where
  /-- the callbacks of scripts own no registrations -/
  plain : ∀ i, ∀ w ∈ (t.signal i).waiting, w.owns = []
  raised : ∀ i, (t.signal i).raised = true → (t.signal i).waiting = []

theorem Event.change_plain {signal : Nat → Signal (List Action)}
    (h : ∀ i, ∀ w ∈ (signal i).waiting, w.owns = []) (e : Event) :
    ∀ i, ∀ w ∈ (e.change signal i).waiting, w.owns = [] := by
  intro i w hw
  cases e with
  | register r callback =>
    simp only [change] at hw
    split at hw
    · cases hr : (signal i).raised with
      | true =>
        rw [Signal.register_of_raised _ _ hr] at hw
        exact h i w hw
      | false =>
        rw [Signal.register_of_unraised _ _ hr] at hw
        rcases List.mem_append.mp hw with hw | hw
        · exact h i w hw
        · rw [List.mem_singleton.mp hw]
    · exact h i w hw
  | drop r => exact h i w (List.mem_filter.mp hw).1
  | cancel j =>
    simp only [change] at hw
    split at hw
    · simp only [Signal.raise] at hw
      split at hw
      · exact h i w hw
      · cases hw
    · exact h i w hw
  | _ => exact h i w hw

theorem Event.change_raised {signal : Nat → Signal (List Action)}
    (h : ∀ i, (signal i).raised = true → (signal i).waiting = []) (e : Event) :
    ∀ i, (e.change signal i).raised = true → (e.change signal i).waiting = [] := by
  intro i
  cases e with
  | register r callback =>
    simp only [change]
    split
    · cases hr : (signal i).raised with
      | true =>
        rw [Signal.register_of_raised _ _ hr]
        exact h i
      | false => simp [hr]
    · exact h i
  | drop r =>
    intro hr
    simp only [change] at hr ⊢
    rw [h i hr, List.filter_nil]
  | cancel j =>
    simp only [change]
    split
    · cases hr : (signal i).raised with
      | true => simpa [Signal.raise, hr] using h i hr
      | false => simp [Signal.raise, hr]
    · exact h i
  | _ => exact h i

namespace Table

/-- What events do to the signals one after the other. -/
def changed (signal : Nat → Signal (List Action)) (es : List Event) : Nat → Signal (List Action) :=
  es.foldl Event.change signal

theorem changed_plain {signal : Nat → Signal (List Action)}
    (h : ∀ i, ∀ w ∈ (signal i).waiting, w.owns = []) (es : List Event) :
    ∀ i, ∀ w ∈ (changed signal es i).waiting, w.owns = [] := by
  induction es generalizing signal with
  | nil => exact h
  | cons e es ih => exact ih (e.change_plain h)

theorem changed_raised {signal : Nat → Signal (List Action)}
    (h : ∀ i, (signal i).raised = true → (signal i).waiting = []) (es : List Event) :
    ∀ i, (changed signal es i).raised = true → (changed signal es i).waiting = [] := by
  induction es generalizing signal with
  | nil => exact h
  | cons e es ih => exact ih (e.change_raised h)

variable {t : Table}

theorem giveUp_eq (r : Registration) : t.giveUp r = { t with signals := without t.signals r } := by
  cases h : withdraw r t.signals <;> simp only [giveUp, without, h]

theorem giveUp_signal (plain : ∀ i, ∀ w ∈ (t.signal i).waiting, w.owns = []) (r : Registration) :
    (t.giveUp r).signal = (Event.drop r).change t.signal := by
  funext i
  rw [giveUp_eq]
  exact getD_without t.signals plain r i

theorem storeRegistration_signal (plain : ∀ i, ∀ w ∈ (t.signal i).waiting, w.owns = [])
    (name : String) (r : Registration) :
    (t.storeRegistration name r).signal = changed t.signal (t.forgets name) := by
  simp only [storeRegistration, forgets]
  cases t.registrations.lookup name with
  | none => rfl
  | some old =>
    exact giveUp_signal (t := { t with registrations := bind name r t.registrations }) plain old

/-- What is not about signals is left alone when a registration is stored. -/
theorem storeRegistration_names (t : Table) (name : String) (r : Registration) :
    (t.storeRegistration name r).sources = t.sources ∧
    (t.storeRegistration name r).tokens = t.tokens ∧
    (t.storeRegistration name r).signals.size = t.signals.size := by
  simp only [storeRegistration]
  cases t.registrations.lookup name with
  | none => exact ⟨rfl, rfl, rfl⟩
  | some old =>
    dsimp only
    rw [giveUp_eq]
    exact ⟨rfl, rfl, size_without ..⟩

theorem mem_of_lookup {α : Type} {name : String} {names : List (String × α)} {x : α}
    (h : names.lookup name = some x) : (name, x) ∈ names := by
  induction names with
  | nil => cases h
  | cons y names ih =>
    rw [List.lookup_cons] at h
    split at h
    · next hy =>
      cases h
      rw [beq_iff_eq.mp hy]
      exact List.mem_cons_self
    · exact List.mem_cons_of_mem _ (ih h)

theorem Sane.source {name : String} {i : Nat} (sane : t.Sane) (h : t.source? name = some i) :
    i < t.signals.size := sane.sources _ (mem_of_lookup h)

theorem Sane.token {name : String} {i : Nat} (sane : t.Sane)
    (h : (t.token? name).bind (·.signal) = some i) : i < t.signals.size := by
  obtain ⟨token, named, hi⟩ := Option.bind_eq_some_iff.mp h
  exact sane.tokens _ (mem_of_lookup named) i hi

/-- A new signal is as good as one that is not there yet. -/
theorem signal_push (t : Table) (i : Nat) :
    (t.signals.push Signal.fresh).getD i Signal.fresh = t.signal i := by
  simp only [signal, Array.getD_eq_getD_getElem?, Array.getElem?_push]
  split
  · next h => rw [h, Array.getElem?_size, Option.getD_none, Option.getD_some]
  · rfl

theorem put_signal {i : Nat} (hi : i < t.signals.size) (s : Signal (List Action)) (j : Nat) :
    (t.signals.setIfInBounds i s).getD j Signal.fresh = if j = i then s else t.signal j := by
  rw [getD_setIfInBounds]
  simp only [hi, and_true, signal]

/-- The table after a callback has been given to a signal. -/
def enroll (t : Table) (i : Nat) (callback : List Action) : Table :=
  { t with signals := t.signals.setIfInBounds i ((t.signal i).register callback []).2 }

theorem enroll_signal {i : Nat} (hi : i < t.signals.size) (callback : List Action) :
    (t.enroll i callback).signal =
      (Event.register ⟨some i, (t.signal i).nextId⟩ callback).change t.signal := by
  funext j
  refine (put_signal hi _ j).trans ?_
  simp only [Event.change, Option.some.injEq, eq_comm (a := i)]
  split
  · next h => rw [h]
  · rfl

theorem enroll_plain (plain : ∀ i, ∀ w ∈ (t.signal i).waiting, w.owns = []) {i : Nat}
    (hi : i < t.signals.size) (callback : List Action) :
    ∀ j, ∀ w ∈ ((t.enroll i callback).signal j).waiting, w.owns = [] := by
  rw [enroll_signal hi]
  exact Event.change_plain plain _

end Table

namespace Running

variable {r : Running}

/-- The signals after an action has been performed. -/
theorem perform_signal (sane : r.table.Sane) (a : Action) :
    (r.perform a).table.signal = Table.changed r.table.signal (r.table.performs a) := by
  have same {x : Running} (h : x.table.signals = r.table.signals) :
      x.table.signal = r.table.signal := by
    funext i
    rw [Table.signal, h, Table.signal]
  cases a with
  | newSource name =>
    funext i
    rw [Table.signal, perform, deliver_signals]
    exact r.table.signal_push i
  | register name token callback =>
    simp only [perform, Table.performs]
    cases ht : (r.table.token? token).bind (·.signal) with
    | none =>
      funext i
      rw [Table.signal, deliver_signals]
      exact congrFun (Table.storeRegistration_signal sane.plain name _) i
    | some i =>
      have hi := sane.token ht
      have same : r.table.signals.getD i Signal.fresh = r.table.signal i := rfl
      simp only [same]
      cases raised : (r.table.signal i).raised with
      | true =>
        have taken : ((r.table.signal i).register callback []).1 = none :=
          congrArg Prod.fst (Signal.register_of_raised _ _ raised)
        simp only [taken, if_true]
        exact Table.enroll_signal hi callback
      | false =>
        have kept : ((r.table.signal i).register callback []).1 = some (r.table.signal i).nextId :=
          congrArg Prod.fst (Signal.register_of_unraised _ _ raised)
        simp only [kept, Bool.false_eq_true, if_false]
        have plain := Table.enroll_plain sane.plain hi callback
        funext j
        rw [Table.signal, deliver_signals]
        refine (congrFun (Table.storeRegistration_signal plain name _) j).trans ?_
        rw [Table.enroll_signal hi]
        rfl
  | giveUp name =>
    simp only [perform, Table.performs, Table.forgets]
    cases r.table.registrations.lookup name with
    | none => exact same (deliver_signals ..)
    | some registration =>
      funext i
      rw [Table.signal, deliver_signals]
      let t : Table := { r.table with registrations := Table.unbind name r.table.registrations }
      exact congrFun (Table.giveUp_signal (t := t) sane.plain registration) i
  | cancel source =>
    simp only [perform, Table.performs]
    cases hs : r.table.source? source with
    | none => exact same (deliver_signals ..)
    | some i =>
      funext j
      refine (Table.put_signal (sane.source hs) _ j).trans ?_
      simp only [Option.toList_some, List.map_cons, List.map_nil, Table.changed, List.foldl_cons,
        List.foldl_nil, Event.change]
      split
      · next h => rw [h]; rfl
      · rfl
  | panic text => rfl
  | _ => exact same (deliver_signals ..)

theorem deliver_names (r : Running) (a : Answer) : (r.deliver a).table.sources = r.table.sources ∧
    (r.deliver a).table.tokens = r.table.tokens := by
  obtain ⟨stack, table, answer⟩ := r
  cases stack <;> cases a <;> exact ⟨rfl, rfl⟩

/-- What a step does to the table: it performs an action, it stores a registration, or nothing. -/
theorem step_table {next : Running} (h : r.step = some next) :
    (∃ a actions rest, r.stack = .body (a :: actions) :: rest ∧
      next = perform { r with stack := .body actions :: rest } a) ∨
    (∃ name rest, r.stack = .registering name :: rest ∧ next =
      deliver { r with stack := rest, table := r.table.storeRegistration name Registration.nothing }
        (.text Registration.nothing.describe)) ∨
    (next.table.signals = r.table.signals ∧ next.table.sources = r.table.sources ∧
      next.table.tokens = r.table.tokens ∧ Table.changed r.table.signal r.events = r.table.signal) := by
  obtain ⟨stack, table, answer⟩ := r
  cases stack with
  | nil => cases h
  | cons frame rest =>
    cases frame with
    | body actions =>
      cases actions with
      | nil =>
        cases h
        exact .inr (.inr ⟨rfl, rfl, rfl, rfl⟩)
      | cons a actions =>
        cases h
        exact .inl ⟨a, actions, rest, rfl, rfl⟩
    | cancelling i callbacks =>
      cases callbacks with
      | nil =>
        cases h
        obtain ⟨sources, tokens⟩ := deliver_names ⟨rest, table, answer⟩ .nothing
        exact .inr (.inr ⟨deliver_signals .., sources, tokens, rfl⟩)
      | cons w ws =>
        cases h
        exact .inr (.inr ⟨rfl, rfl, rfl, rfl⟩)
    | registering name =>
      cases h
      exact .inr (.inl ⟨name, rest, rfl, rfl⟩)

/-- The signals after a step. -/
theorem step_signal (sane : r.table.Sane) {next : Running} (h : r.step = some next) :
    next.table.signal = Table.changed r.table.signal r.events := by
  rcases step_table h with ⟨a, actions, rest, hs, rfl⟩ | ⟨name, rest, hs, rfl⟩ | ⟨same, -, -, quiet⟩
  · rw [perform_signal (r := { r with stack := .body actions :: rest }) sane, events, hs]
  · funext j
    rw [Table.signal, deliver_signals, events, hs]
    exact congrFun (Table.storeRegistration_signal sane.plain name _) j
  · rw [quiet]
    funext j
    rw [Table.signal, same, Table.signal]

end Running

namespace Table

variable {t t' : Table}

theorem Named.of_same (h : t.Named) (sources : t'.sources = t.sources) (tokens : t'.tokens = t.tokens)
    (size : t'.signals.size = t.signals.size) : t'.Named where
  sources := by
    rw [sources, size]
    exact h.sources
  tokens := by
    rw [tokens, size]
    exact h.tokens

theorem mem_bind {α : Type} {name : String} {value : α} {names : List (String × α)}
    {x : String × α} (h : x ∈ bind name value names) : x = (name, value) ∨ x ∈ names :=
  (List.mem_cons.mp h).imp_right fun h => (List.mem_filter.mp h).1

theorem Named.bindToken (h : t.Named) {name : String} {token : Token}
    (within : token.Within t.signals.size) :
    ({ t with tokens := bind name token t.tokens } : Table).Named where
  sources := h.sources
  tokens x hx := by
    rcases mem_bind hx with rfl | hx
    · exact within
    · exact h.tokens x hx

end Table

namespace Running

variable {r : Running}

theorem said_named {a : Answer} (h : r.table.Named) : (r.deliver a).table.Named :=
  h.of_same (deliver_names r a).1 (deliver_names r a).2 (by rw [deliver_signals])

theorem perform_named (h : r.table.Named) (a : Action) : (r.perform a).table.Named := by
  cases a with
  | newSource name =>
    have more := Nat.lt_succ_self r.table.signals.size
    refine said_named ⟨fun x hx => ?_, fun x hx => ?_⟩ <;> dsimp only at hx ⊢ <;> rw [Array.size_push]
    · rcases Table.mem_bind hx with rfl | hx
      · exact more
      · exact Nat.lt_trans (h.sources x hx) more
    · exact (h.tokens x hx).mono (Nat.le_of_lt more)
  | newToken name source =>
    exact said_named (h.bindToken fun i hi => h.sources _ (Table.mem_of_lookup hi))
  | neverToken name => exact said_named (h.bindToken nofun)
  | cloneToken name original =>
    refine said_named (h.bindToken fun i hi => ?_)
    cases ht : r.table.token? original with
    | none =>
      rw [ht] at hi
      cases hi
    | some token =>
      rw [ht] at hi
      exact h.tokens _ (Table.mem_of_lookup ht) i hi
  | dropSource name => exact said_named ⟨fun x hx => h.sources x (List.mem_filter.mp hx).1, h.tokens⟩
  | dropToken name => exact said_named ⟨h.sources, fun x hx => h.tokens x (List.mem_filter.mp hx).1⟩
  | register name token callback =>
    have stored {t : Table} (ht : t.Named) (name : String) (r : Registration) :
        (t.storeRegistration name r).Named := by
      obtain ⟨sources, tokens, size⟩ := t.storeRegistration_names name r
      exact ht.of_same sources tokens size
    have put {i : Nat} {s : Signal (List Action)} :
        ({ r.table with signals := r.table.signals.setIfInBounds i s } : Table).Named :=
      h.of_same rfl rfl Array.size_setIfInBounds
    simp only [perform]
    split
    · exact said_named (stored h _ _)
    · split
      · exact put
      · exact said_named (stored put _ _)
  | giveUp name =>
    simp only [perform]
    split
    · exact said_named h
    · refine said_named ?_
      rw [Table.giveUp_eq]
      exact h.of_same rfl rfl (size_without ..)
  | cancel source =>
    simp only [perform]
    split
    · exact said_named h
    · exact h.of_same rfl rfl Array.size_setIfInBounds
  | panic text => exact h
  | log text => exact said_named ⟨h.sources, h.tokens⟩
  | _ => exact said_named h

theorem perform_sane (sane : r.table.Sane) (a : Action) : (r.perform a).table.Sane where
  toNamed := perform_named sane.toNamed a
  plain := by
    rw [perform_signal sane]
    exact Table.changed_plain sane.plain _
  raised := by
    rw [perform_signal sane]
    exact Table.changed_raised sane.raised _

theorem step_sane (sane : r.table.Sane) {next : Running} (h : r.step = some next) :
    next.table.Sane where
  toNamed := by
    rcases step_table h with ⟨a, actions, rest, hs, rfl⟩ | ⟨name, rest, hs, rfl⟩ |
      ⟨signals, sources, tokens, -⟩
    · exact perform_named (r := { r with stack := .body actions :: rest }) sane.toNamed a
    · obtain ⟨sources, tokens, size⟩ := r.table.storeRegistration_names name Registration.nothing
      exact said_named (sane.toNamed.of_same sources tokens size)
    · exact sane.toNamed.of_same sources tokens (by rw [signals])
  plain := by
    rw [step_signal sane h]
    exact Table.changed_plain sane.plain _
  raised := by
    rw [step_signal sane h]
    exact Table.changed_raised sane.raised _

end Running

theorem Table.sane_empty : Table.empty.Sane where
  sources := nofun
  tokens := nofun
  plain i w hw := by
    rw [signal, getD_of_size_le (Nat.zero_le i)] at hw
    cases hw
  raised i hr := by
    rw [signal, getD_of_size_le (Nat.zero_le i)] at hr
    cases hr

end EmbeddedPython.Cancellation
