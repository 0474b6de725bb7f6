import EmbeddedPython.Proofs.Cancellation.Account

/-
  Calls and the callbacks that they run

  Whatever is on the stack of a running script comes to its end: its events are
  those of calls that are over, up to the one that ends it, unless a callback
  panics. A call that cancels a signal runs the callbacks that it has taken one
  after the other, and after a panic the others are gone for good.
-/

namespace EmbeddedPython.Cancellation

/-- A registered callback. -/
abbrev Callback := Registration × List Action

/-! ## What calls consist of -/

/-- Whether something begins that `done` ends. -/
def Event.Opens : Event → Prop
  | .register _ _ | .cancel _ | .run _ _ => True
  | _ => False

/-- Calls that are over, one after the other. -/
inductive Completed : List Event → Prop where
  | nil : Completed []
  | drop {es : List Event} (r : Registration) (h : Completed es) : Completed (.drop r :: es)
  | call {e : Event} {body es : List Event} (opens : e.Opens) (hb : Completed body)
      (h : Completed es) : Completed (e :: (body ++ .done :: es))

/-- Calls of which the last may not be over. -/
inductive Unfinished : List Event → Prop where
  | here {es : List Event} (h : Completed es) : Unfinished es
  | inside {e : Event} {es body : List Event} (h : Completed es) (opens : e.Opens)
      (hb : Unfinished body) : Unfinished (es ++ e :: body)

/-- Callbacks that have run, one after the other. -/
inductive Served : List Callback → List Event → Prop where
  | nil : Served [] []
  | cons {xs : List Callback} {body es : List Event} (x : Callback) (hb : Completed body)
      (h : Served xs es) : Served (x :: xs) (.run x.1 x.2 :: (body ++ .done :: es))

/-- What follows on a call that is to run callbacks in their order, with those that run: all of
them before the call is over, or those up to one that panics. -/
inductive Batch (xs : List Callback) : List Callback → List Event → Prop where
  | returns {es : List Event} (h : Served xs es) (after : List Event) :
      Batch xs xs (es ++ .done :: after)
  | panics {es body : List Event} (ys : List Callback) (x : Callback) (zs : List Callback)
      (hx : xs = ys ++ x :: zs) (h : Served ys es) (hb : Unfinished body) (after : List Event) :
      Batch xs (ys ++ [x]) (es ++ .run x.1 x.2 :: (body ++ .panic :: after))

section

variable {es es' : List Event}

theorem Completed.append (h : Completed es) (h' : Completed es') : Completed (es ++ es') := by
  induction h with
  | nil => exact h'
  | drop r _ ih => exact .drop r ih
  | call opens hb _ _ ih =>
    rw [List.cons_append, List.append_assoc, List.cons_append]
    exact .call opens hb ih

theorem Unfinished.prepend (h : Completed es) (h' : Unfinished es') : Unfinished (es ++ es') := by
  cases h' with
  | here h' => exact .here (h.append h')
  | inside h' opens hb =>
    rw [← List.append_assoc]
    exact .inside (h.append h') opens hb

theorem OnlyDrops.completed (h : OnlyDrops es) : Completed es := by
  induction es with
  | nil => exact .nil
  | cons e es ih =>
    obtain ⟨r, rfl⟩ := h e List.mem_cons_self
    exact .drop r (ih fun e he => h e (List.mem_cons_of_mem _ he))

theorem Served.completed {xs : List Callback} (h : Served xs es) : Completed es := by
  induction h with
  | nil => exact .nil
  | cons x hb _ ih => exact .call trivial hb ih

theorem Served.ran {xs : List Callback} (h : Served xs es) {x : Callback} (hx : x ∈ xs) :
    .run x.1 x.2 ∈ es := by
  induction h with
  | nil => cases hx
  | cons y hb _ ih =>
    rcases List.mem_cons.mp hx with rfl | hx
    · exact List.mem_cons_self
    · exact List.mem_cons_of_mem _ (List.mem_append_right _ (List.mem_cons_of_mem _ (ih hx)))

end

/-! ## Running for a while -/

namespace Running

/-- Whether a running script, left alone with so much fuel, comes to another state after some events
with as much fuel as is left then. -/
structure Goes (r : Running) (n : Nat) (es : List Event) (next : Running) (m : Nat) : Prop where
  trace : r.trace n = es ++ next.trace m
  run : r.run n = next.run m
  sound : next.Sound
  enough : next.weight < m
  fewer : m ≤ n
  raised : ∀ i, (r.table.signal i).raised = true → (next.table.signal i).raised = true
  owes : ∀ y, r.table.Known y → next.table.Known y ∧ (ran es).count y + next.owed y ≤ r.owed y

namespace Goes

variable {r next last : Running} {es es' : List Event} {n m k : Nat}

theorem refl (sound : r.Sound) (enough : r.weight < n) : r.Goes n [] r n :=
  ⟨rfl, rfl, sound, enough, Nat.le_refl n, fun _ => id,
    fun _ h => ⟨h, Nat.le_of_eq (Nat.zero_add _)⟩⟩

theorem trans (h : r.Goes n es next m) (h' : next.Goes m es' last k) :
    r.Goes n (es ++ es') last k where
  trace := by rw [h.trace, h'.trace, List.append_assoc]
  run := h.run.trans h'.run
  sound := h'.sound
  enough := h'.enough
  fewer := Nat.le_trans h'.fewer h.fewer
  raised i hi := h'.raised i (h.raised i hi)
  owes y known := by
    obtain ⟨known', owes⟩ := h.owes y known
    obtain ⟨known'', owes'⟩ := h'.owes y known'
    refine ⟨known'', ?_⟩
    rw [ran_append, List.count_append]
    omega

/-- A step with what it does to the stack. -/
theorem step {f : Frame} {rest : List Frame} (sound : r.Sound) (hs : r.stack = f :: rest)
    (enough : r.weight < n + 1) : ∃ next, r.Goes (n + 1) r.events next n ∧
      Steps r.table.signal (f :: rest) r.events next.stack := by
  obtain ⟨next, h⟩ : ∃ next, r.step = some next := by
    obtain ⟨stack, table, answer⟩ := r
    cases hs
    cases f with
    | body actions => cases actions <;> exact ⟨_, rfl⟩
    | cancelling i ws => cases ws <;> exact ⟨_, rfl⟩
    | registering name => exact ⟨_, rfl⟩
  obtain ⟨sound', -, owes⟩ := sound.step h
  have lighter := step_weight sound.sane h
  have steps := steps h
  rw [hs] at steps
  refine ⟨next, ⟨?_, ?_, sound', by omega, Nat.le_succ n, fun i hi => ?_, owes⟩, steps⟩
  · simp only [Running.trace, h]
  · simp only [Running.run, h]
  · rw [step_signal sound.sane h]
    exact raised_changed _ hi

end Goes

end Running

/-- The callbacks that wait on a signal. -/
def callbacks (i : Nat) (ws : List (Waiting (List Action))) : List Callback :=
  ws.map fun w => (⟨some i, w.id⟩, w.callback)

namespace Frame

/-- What happens until a frame has come to its end. -/
def Ends : Frame → List Event → Prop
  | body _, es => ∃ inner, Completed inner ∧ es = inner ++ [.done]
  | cancelling i ws, es => ∃ inner, Served (callbacks i ws) inner ∧ es = inner ++ [.done]
  | registering _, es => ∃ inner, OnlyDrops inner ∧ es = .done :: inner

/-- What happens until a callback panics that runs above a frame. -/
def Breaks : Frame → List Event → Prop
  | body _, es => Unfinished es
  | cancelling i ws, es => ∃ ys x zs inner body, callbacks i ws = ys ++ x :: zs ∧ Served ys inner ∧
      Unfinished body ∧ es = inner ++ .run x.1 x.2 :: body ∧ ∀ z ∈ zs, z.1 ∉ ran es
  | registering _, _ => False

/-- What comes of a frame: it ends, with the frames below it left, or a callback panics. -/
inductive Comes (f : Frame) (rest : List Frame) (r : Running) (n : Nat) : Prop where
  | ends {es : List Event} {next : Running} {m : Nat} (goes : r.Goes n es next m)
      (less : m < n) (stack : next.stack = rest) (h : f.Ends es)
  | breaks {es : List Event} {next : Running} {m : Nat} (goes : r.Goes n (es ++ [.panic]) next m)
      (stack : next.stack = []) (h : f.Breaks es)
      (owes : ∀ y, r.table.Known y → (ran es).count y + (dueIn rest).count y ≤ r.owed y)

end Frame

namespace Running

theorem due_le_owed {r : Running} {f : Frame} {rest : List Frame} (hs : r.stack = f :: rest)
    (y : Registration) : f.due.count y + (dueIn rest).count y ≤ r.owed y := by
  have split : dueIn (f :: rest) = f.due ++ dueIn rest := rfl
  rw [owed, hs, split, List.count_append]
  exact Nat.le_add_right _ _

/-- What happens before a panic counts as what happens up to it. -/
theorem Goes.owes_before {r next : Running} {n m : Nat} {es es' : List Event} {below : List Frame}
    (goes : r.Goes n es next m)
    (owes : ∀ y, next.table.Known y → (ran es').count y + (dueIn below).count y ≤ next.owed y)
    (y : Registration) (known : r.table.Known y) :
    (ran (es ++ es')).count y + (dueIn below).count y ≤ r.owed y := by
  obtain ⟨known', before⟩ := goes.owes y known
  have := owes y known'
  rw [ran_append, List.count_append]
  omega

/-- Callbacks that a call has yet to run do not run meanwhile. -/
theorem Sound.waits_for {r : Running} (sound : r.Sound) {es : List Event} {i : Nat}
    {ws : List (Waiting (List Action))} {z : Callback} (hz : z ∈ callbacks i ws)
    (owes : ∀ y, r.table.Known y → (ran es).count y + (registrations i ws).count y ≤ r.owed y)
    (due : 0 < r.owed z.1) : z.1 ∉ ran es := by
  have here : z.1 ∈ registrations i ws := by
    obtain ⟨w, hw, rfl⟩ := List.mem_map.mp hz
    exact List.mem_map.mpr ⟨w, hw, rfl⟩
  have once := owes z.1 (sound.known z.1 due)
  have single := sound.single z.1
  have := List.count_pos_iff.mpr here
  exact List.count_eq_zero.mp (by omega)

/-- Whether every frame that is on top before so much fuel is left comes to its end, or a callback
panics. -/
def Continues (r : Running) (n : Nat) : Prop :=
  ∀ {g : Frame} {below : List Frame} {last : Running} {es : List Event} {m : Nat},
    r.Goes (n + 1) es last m → m ≤ n → last.stack = g :: below → g.Comes below last m

section

variable {r next : Running} {n : Nat} {rest : List Frame}

/-- A panic above a frame leaves what the frames below it are due to. -/
theorem Goes.breaks {f : Frame} {es es₁ : List Event} {mid last : Running} {m k : Nat}
    (goes : r.Goes n es mid m) (goes₁ : mid.Goes m (es₁ ++ [.panic]) last k)
    (stack : last.stack = []) (h : f.Breaks (es ++ es₁))
    (owes : ∀ y, mid.table.Known y → (ran es₁).count y + (dueIn rest).count y ≤ mid.owed y) :
    f.Comes rest r n := by
  have both := goes.trans goes₁
  rw [← List.append_assoc] at both
  exact .breaks both stack h (goes.owes_before owes)

/-- A call that is to run callbacks runs the next one, and then the others. -/
theorem next_comes {i : Nat} {w : Waiting (List Action)} {ws : List (Waiting (List Action))}
    (sound : r.Sound) (hs : r.stack = .cancelling i (w :: ws) :: rest) (after : r.Continues n)
    (goes : r.Goes (n + 1) [.run ⟨some i, w.id⟩ w.callback] next n)
    (hn : next.stack = .body w.callback :: .cancelling i ws :: rest) :
    (Frame.cancelling i (w :: ws)).Comes rest r (n + 1) := by
  have owed {z : Callback} (hz : z ∈ callbacks i ws) : 0 < r.owed z.1 := by
    refine Nat.lt_of_lt_of_le (List.count_pos_iff.mpr ?_)
      (Nat.le_trans (Nat.le_add_right _ _) (due_le_owed hs z.1))
    obtain ⟨v, hv, rfl⟩ := List.mem_map.mp hz
    exact List.mem_map.mpr ⟨v, List.mem_cons_of_mem w hv, rfl⟩
  cases after goes (Nat.le_refl n) hn with
  | @ends es₁ next₁ m₁ goes₁ less₁ stack₁ h₁ =>
    obtain ⟨inner₁, completed, rfl⟩ := h₁
    have goes₁ := goes.trans goes₁
    cases after goes₁ (Nat.le_of_lt less₁) stack₁ with
    | @ends es₂ next₂ m₂ goes₂ less₂ stack₂ h₂ =>
      obtain ⟨inner₂, served, rfl⟩ := h₂
      refine .ends (goes₁.trans goes₂) (Nat.lt_succ_of_lt (Nat.lt_trans less₂ less₁)) stack₂ ?_
      exact ⟨_, .cons (⟨some i, w.id⟩, w.callback) completed served, by simp⟩
    | @breaks es₂ next₂ m₂ goes₂ stack₂ h₂ owes₂ =>
      obtain ⟨ys, x, zs, inner, body, hx, served, unfinished, rfl, lost⟩ := h₂
      refine goes₁.breaks goes₂ stack₂ ?_ owes₂
      refine ⟨_, x, zs, _, body, congrArg _ hx,
        .cons (⟨some i, w.id⟩, w.callback) completed served, unfinished, by simp, fun z hz => ?_⟩
      have waiting : z ∈ callbacks i ws :=
        hx ▸ List.mem_append_right _ (List.mem_cons_of_mem x hz)
      rw [ran_append, List.mem_append, not_or]
      refine ⟨sound.waits_for waiting (fun y known => ?_) (owed waiting), lost z hz⟩
      obtain ⟨-, before⟩ := goes₁.owes y known
      have due := due_le_owed stack₁ y
      dsimp only [Frame.due] at due
      omega
  | @breaks es₁ next₁ m₁ goes₁ stack₁ h₁ owes₁ =>
    -- the others are due when the next one panics, and have not run
    have split : dueIn (.cancelling i ws :: rest) = registrations i ws ++ dueIn rest := rfl
    have owes := goes.owes_before owes₁
    simp only [split, List.count_append] at owes owes₁
    refine goes.breaks goes₁ stack₁ ?_ fun y known => ?_
    · refine ⟨[], (⟨some i, w.id⟩, w.callback), callbacks i ws, [], es₁, rfl, .nil, h₁, rfl,
        fun z hz => sound.waits_for hz (fun y known => ?_) (owed hz)⟩
      have := owes y known
      omega
    · have := owes₁ y known
      omega

/-- Once an action is over, the rest of the callback comes to its end. -/
theorem rest_comes {a : Action} {actions : List Action} {es : List Event} {last : Running} {m : Nat}
    (after : r.Continues n) (goes : r.Goes (n + 1) es last m) (hm : m ≤ n)
    (hs : last.stack = .body actions :: rest) (completed : Completed es) :
    (Frame.body (a :: actions)).Comes rest r (n + 1) := by
  cases after goes hm hs with
  | ends goes₁ less₁ stack₁ h₁ =>
    obtain ⟨inner, completed', rfl⟩ := h₁
    exact .ends (goes.trans goes₁) (Nat.lt_succ_of_lt (Nat.lt_of_lt_of_le less₁ hm)) stack₁
      ⟨_, completed.append completed', by simp⟩
  | breaks goes₁ stack₁ h₁ owes₁ => exact goes.breaks goes₁ stack₁ (.prepend completed h₁) owes₁

/-- A callback takes an action, and then the others. -/
theorem action_comes {a : Action} {actions : List Action} {es : List Event} (after : r.Continues n)
    (hs : r.stack = .body (a :: actions) :: rest) (goes : r.Goes (n + 1) es next n)
    (h : Performs r.table.signal (.body actions :: rest) es next.stack) :
    (Frame.body (a :: actions)).Comes rest r (n + 1) := by
  have now := Nat.le_refl n
  generalize hn : next.stack = stack at h
  cases h with
  | quiet drops => exact rest_comes after goes now hn drops.completed
  | register y callback early drops =>
    exact rest_comes after goes now hn
      (.call (e := .register y callback) trivial .nil drops.completed)
  | late i callback name raised =>
    cases after goes now hn with
    | ends goes₁ less₁ stack₁ h₁ =>
      obtain ⟨inner, completed, rfl⟩ := h₁
      have goes₁ := goes.trans goes₁
      cases after goes₁ (Nat.le_of_lt less₁) stack₁ with
      | ends goes₂ less₂ stack₂ h₂ =>
        obtain ⟨drops, hd, rfl⟩ := h₂
        refine rest_comes after (goes₁.trans goes₂) (Nat.le_of_lt (Nat.lt_trans less₂ less₁)) stack₂ ?_
        have served : Completed (.run ⟨some i, (r.table.signal i).nextId⟩ callback ::
          (inner ++ .done :: [])) := .call trivial completed .nil
        have whole : Completed (.register ⟨some i, (r.table.signal i).nextId⟩ callback ::
          (_ ++ .done :: drops)) := .call trivial served hd.completed
        simpa using whole
      | breaks _ _ h₂ => exact h₂.elim
    | breaks goes₁ stack₁ h₁ owes₁ =>
      exact goes.breaks goes₁ stack₁ (.inside .nil trivial (.inside .nil trivial h₁)) owes₁
  | cancel i =>
    cases after goes now hn with
    | ends goes₁ less₁ stack₁ h₁ =>
      obtain ⟨inner, served, rfl⟩ := h₁
      refine rest_comes after (goes.trans goes₁) (Nat.le_of_lt less₁) stack₁ ?_
      exact .call trivial served.completed .nil
    | breaks goes₁ stack₁ h₁ owes₁ =>
      obtain ⟨ys, x, zs, inner, body, -, served, unfinished, rfl, -⟩ := h₁
      have ran : Unfinished (inner ++ .run x.1 x.2 :: body) :=
        .inside served.completed trivial unfinished
      exact goes.breaks goes₁ stack₁ (.inside .nil trivial ran) owes₁
  | panic =>
    refine .breaks (List.nil_append [Event.panic] ▸ goes) hn (.here .nil) fun y _ => ?_
    have := due_le_owed hs y
    rw [show ran [] = [] from rfl, List.count_nil]
    omega

end

/-- Every frame comes to its end, unless a callback panics. -/
theorem comes (n : Nat) : ∀ (r : Running) (f : Frame) (rest : List Frame), r.Sound →
    r.stack = f :: rest → r.weight < n → f.Comes rest r n := by
  induction n using Nat.strongRecOn with
  | ind n ih =>
    intro r f rest sound hs enough
    obtain _ | n := n
    · exact absurd enough (Nat.not_lt_zero _)
    obtain ⟨next, goes, steps⟩ := Goes.step sound hs enough
    have after : r.Continues n := fun goes hm hs =>
      ih _ (Nat.lt_succ_of_le hm) _ _ _ goes.sound hs goes.enough
    generalize r.events = es at goes steps
    generalize hn : next.stack = stack at steps
    have less := Nat.lt_succ_self n
    cases steps with
    | finish => exact .ends goes less hn ⟨[], .nil, rfl⟩
    | served i => exact .ends goes less hn ⟨[], .nil, rfl⟩
    | store name _ drops => exact .ends goes less hn ⟨_, drops, rfl⟩
    | next i w ws => exact next_comes sound hs after goes hn
    | perform a actions h => exact action_comes after hs goes (hn ▸ h)

end Running

end EmbeddedPython.Cancellation
