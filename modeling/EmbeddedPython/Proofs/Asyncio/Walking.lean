import EmbeddedPython.Asyncio.Coroutine
import EmbeddedPython.Proofs.Interpreter.Method
import EmbeddedPython.Asyncio.Task

/-
  Moves over frames

  A move of a walk has to do with the frames of the innermost body only. Unless
  the body is about to yield an item, the frames below are left as they are, so
  that a body moves in the same way wherever it is awaited. Every move of a body
  on its own also leaves fewer moves than there were.
-/

namespace EmbeddedPython.Eval

def Walked.onto (below : List Frame) : Walked → Walked
  | .handed r frames => .handed r (frames ++ below)
  | .finished c => .finished c

/-- Puts more frames below those that a move leaves. -/
def onto (below : List Frame) :
    Except Walked (List Frame × Arrival) → Except Walked (List Frame × Arrival)
  | .ok (frames, a) => .ok (frames ++ below, a)
  | .error w => .error (w.onto below)

def waitOnto (below : List Frame) : Except Walked Arrival → Except Walked Arrival
  | .ok a => .ok a
  | .error w => .error (w.onto below)

/-- Whether frames are about to yield an item, with the frames that are left afterwards. -/
inductive Emits : List Frame → Arrival → Blueprint → List Frame → Prop where
  | steps (item : Blueprint) (more : List Step) (rest : List Frame) :
      Emits (.steps (.emit item :: more) :: rest) .goOn item (.steps more :: rest)
  | generating (item : Blueprint) (more : List Step) (rest : List Frame) :
      Emits (.generating (.emit item :: more) :: rest) .goOn item (.generating more :: rest)

/-- Whether frames are not about to yield an item. -/
def Silent (frames : List Frame) (a : Arrival) : Prop := ∀ item left, ¬ Emits frames a item left

/-! ## The frames below -/

section

variable {m : Machine} {task : Option Ref} {frames rest below : List Frame} {a : Arrival}

/-- What is done first has nothing to do with the frames. -/
theorem bind_onto {α : Type} {body : Eval α}
    {high low : α → Eval (Except Walked (List Frame × Arrival))}
    (h : ∀ x, high x = onto below <$> low x) : body >>= high = onto below <$> (body >>= low) := by
  rw [map_bind]
  exact congrArg (body >>= ·) (funext h)

theorem waitAt_onto (rest below : List Frame) (gate : String) (frame : Ref → Frame)
    (opened : Ref → Eval Unit) : waitAt (rest ++ below) gate frame opened =
      waitOnto below <$> waitAt rest gate frame opened := by
  simp only [waitAt, map_bind]
  congr 1
  funext loop
  congr 1
  funext entered
  rcases entered with e | v | f
  · simp [waitOnto]
  · simp [waitOnto, Walked.onto]
  · simp only [map_bind]
    congr 1
    funext noted
    cases noted <;> simp [waitOnto]

/-- A body that waits at a gate goes on or hands out what it waits for. -/
theorem afterWait_onto (gate : String) (frame : Ref → Frame) (opened : Ref → Eval Unit) :
    (waitAt (rest ++ below) gate frame opened >>= fun
      | .ok arrival => pure (.ok (rest ++ below, arrival))
      | .error w => pure (.error w)) =
    onto below <$> (waitAt rest gate frame opened >>= fun
      | .ok arrival => pure (.ok (rest, arrival))
      | .error w => pure (.error w)) := by
  rw [waitAt_onto, bind_map_left]
  refine bind_onto fun x => ?_
  cases x <;> simp [onto, waitOnto]

theorem performStep_onto (s : Step) (h : ∀ v, s ≠ .emit v) :
    performStep m task (frames ++ below) s = onto below <$> performStep m task frames s := by
  cases s with
  | emit v => exact absurd rfl (h v)
  | giveWay n => cases n <;> simp [performStep, onto, Walked.onto]
  | wait gate label => exact afterWait_onto _ _ _
  | stubborn gate => exact afterWait_onto _ _ _
  | cancelSelf => cases task <;> simp [performStep, onto]
  | _ => simp [performStep, onto]

theorem leaveInto_onto (frame : Frame) (c : Completion) :
    leaveInto m frame (rest ++ below) c = onto below <$> leaveInto m frame rest c := by
  cases frame with
  | steps s => cases c <;> simp [leaveInto, onto]
  | generating s =>
    cases c with
    | raised e => exact bind_onto fun memory => by split <;> simp [onto]
    | _ => simp [leaveInto, onto]
  | guarded handler again =>
    cases c with
    | raised e => exact bind_onto fun cancels => by split <;> simp [onto]
    | _ => simp [leaveInto, onto]
  | handling again e => cases c <;> simp [leaveInto, onto]
  | cleanup final => cases c <;> simp [leaveInto, onto]
  | cleaning pending => cases c <;> simp [leaveInto, onto]
  | repeating n body => cases n <;> cases c <;> simp [leaveInto, onto]
  | awaited logged =>
    have logs (v : Ref) : leaveInto m (.awaited logged) (rest ++ below) (.returned v) =
        onto below <$> leaveInto m (.awaited logged) rest (.returned v) := by
      cases logged
      · simp [leaveInto, onto]
      · exact bind_onto fun shown => by cases shown <;> simp [onto]
    cases c with
    | raised e => exact bind_onto fun memory => by split <;> simp [onto]
    | normal => exact logs Ref.none
    | returned v => exact logs v
  | stubborn gate future =>
    cases c with
    | raised e =>
      refine bind_onto fun cancels => ?_
      split
      · exact bind_onto fun _ => afterWait_onto _ _ _
      · simp [onto]
    | _ => simp [leaveInto, onto]
  | item g => cases c <;> simp [leaveInto, onto]
  | wrapping r =>
    cases c with
    | raised e => exact bind_onto fun memory => by split <;> simp [onto]
    | _ => simp [leaveInto, onto]
  | iterating it =>
    cases c with
    | raised e => exact bind_onto fun x => by cases x <;> simp [onto, Walked.onto]
    | _ => simp [leaveInto, onto]
  | _ => simp [leaveInto, onto]

theorem openGenerator_onto (g : Ref) :
    openGenerator g (rest ++ below) = onto below <$> openGenerator g rest := by
  refine bind_onto fun v => ?_
  cases v with
  | asyncGenerator c =>
    obtain ⟨phase, frames⟩ := c
    cases phase <;> simp [onto]
  | _ => simp [onto]

theorem openAwaitable_onto (r : Ref) :
    openAwaitable m r (rest ++ below) = onto below <$> openAwaitable m r rest := by
  refine bind_onto fun v => ?_
  split
  · exact openGenerator_onto _
  · exact bind_onto fun opened => by cases opened <;> simp [onto]

/-- A body that goes on moves in the same way whatever is below. -/
theorem goesOn_onto (frame : Frame) (silent : Silent (frame :: rest) .goOn) :
    moveOn m task (frame :: (rest ++ below)) .goOn =
      onto below <$> moveOn m task (frame :: rest) .goOn := by
  cases frame with
  | steps s =>
    obtain _ | ⟨s, more⟩ := s
    · simp [moveOn, onto]
    · simp only [moveOn]
      rw [← List.cons_append, performStep_onto]
      rintro v rfl
      exact silent _ _ (.steps v more rest)
  | generating s =>
    obtain _ | ⟨s, more⟩ := s
    · simp [moveOn, onto]
    · cases s with
      | emit v => exact absurd (.generating v more rest) (silent _ _)
      | finish =>
        simp only [moveOn]
        rw [← List.cons_append, performStep_onto]
        nofun
      | _ => simp [moveOn, onto]
  | repeating n body => simp only [moveOn, leaveInto_onto]
  | wrapping r =>
    simp only [moveOn]
    rw [← List.cons_append, openAwaitable_onto]
  | sleeping delay value =>
    exact bind_onto fun checked => by cases checked <;> simp [onto, Walked.onto]
  | _ => simp [moveOn, onto]

/-- So does one that has been handed what it waits for. -/
theorem value_onto (frame : Frame) (v : Ref) :
    moveOn m task (frame :: (rest ++ below)) (.value v) =
      onto below <$> moveOn m task (frame :: rest) (.value v) := by
  cases frame with
  | pausing n => cases n <;> simp [moveOn, onto, Walked.onto]
  | waiting future label =>
    refine bind_onto fun pending => ?_
    split
    · simp [onto, Walked.onto]
    · refine bind_onto fun x => ?_
      cases x with
      | value v => simp [onto]
      | _ => simp [onto]
  | stubborn gate future =>
    refine bind_onto fun pending => ?_
    split
    · simp [onto, Walked.onto]
    · refine bind_onto fun x => ?_
      cases x with
      | ended c =>
        cases c with
        | raised e => exact leaveInto_onto _ _
        | _ => simp [onto]
      | _ => simp [onto]
  | iterating it => exact bind_onto fun x => by cases x <;> simp [onto, Walked.onto]
  | _ => simp [moveOn, onto]

theorem moveOn_onto (some : frames ≠ []) (silent : Silent frames a) :
    moveOn m task (frames ++ below) a = onto below <$> moveOn m task frames a := by
  obtain _ | ⟨frame, rest⟩ := frames
  · exact absurd rfl some
  rw [List.cons_append]
  cases a with
  | ended c => cases frame <;> simp only [moveOn, leaveInto_onto]
  | goOn => exact goesOn_onto frame silent
  | value v => exact value_onto frame v

end

end EmbeddedPython.Eval

namespace EmbeddedPython

namespace Frame

/-- Whether a frame can be one of a body that is not asked through another frame for its items. -/
def isInner : Frame → Bool
  | item _ | wrapping _ => false
  | _ => true

end Frame

namespace Eval

variable {α β : Type}

/-! ## What evaluations return -/

/-- Whether whatever an evaluation returns has a property. -/
def Always (P : α → Prop) (body : Eval α) : Prop :=
  ∀ m a n, body.run m = (.ok a, n) → P a

namespace Always

variable {P : α → Prop} {Q : β → Prop}

theorem pure {a : α} (h : P a) : Always P (Pure.pure a) := by
  rintro m _ n ⟨⟩
  exact h

theorem bind_of {body : Eval β} {next : β → Eval α} (hb : Always Q body)
    (h : ∀ b, Q b → Always P (next b)) : Always P (body >>= next) := by
  intro m a n run
  rw [run_bind] at run
  generalize he : body.run m = x at run
  obtain ⟨_ | b, k⟩ := x
  · cases run
  · exact h b (hb m b k he) k a n run

theorem bind {body : Eval β} {next : β → Eval α} (h : ∀ b, Always P (next b)) :
    Always P (body >>= next) :=
  bind_of (Q := fun _ => True) (fun _ _ _ _ => trivial) fun b _ => h b

theorem ite {p : Bool} {x y : Eval α} (hx : Always P x) (hy : Always P y) :
    Always P (if p then x else y) := by
  cases p
  · exact hy
  · exact hx

theorem imp {R : α → Prop} {body : Eval α} (h : Always P body) (imp : ∀ a, P a → R a) :
    Always R body :=
  fun m a n run => imp a (h m a n run)

end Always

/-! ## Fewer moves -/

/-- How many moves the arrival itself can cost. -/
def arrivalMoves : List Frame → Arrival → Nat
  | .steps _ :: _, .goOn | .generating _ :: _, .goOn | .repeating .. :: _, .goOn
  | .sleeping .. :: _, .goOn | .wrapping _ :: _, .goOn => 0
  | _, .ended _ => 1
  | _, _ => 2

/-- A bound on the moves over frames that something has arrived at. -/
def weight (frames : List Frame) (a : Arrival) : Nat := Frame.movesAll frames + arrivalMoves frames a

theorem weight_ended (frames : List Frame) (c : Completion) :
    weight frames (.ended c) = Frame.movesAll frames + 1 := by
  obtain _ | ⟨frame, rest⟩ := frames
  · rfl
  · cases frame <;> rfl

theorem weight_le (frames : List Frame) (a : Arrival) :
    weight frames a ≤ Frame.movesAll frames + 2 := by
  have : arrivalMoves frames a ≤ 2 := by
    unfold arrivalMoves
    split <;> omega
  rw [weight]
  omega

theorem Step.movesAll_pos (steps : List Step) : 0 < Step.movesAll steps := by
  induction steps with
  | nil => exact Nat.zero_lt_one
  | cons s rest ih => simp only [Step.movesAll]; omega

theorem Frame.two_le_moves (frame : Frame) : 2 ≤ frame.moves := by
  cases frame with
  | steps rest =>
    have := Step.movesAll_pos rest
    simp only [Frame.moves]
    omega
  | _ =>
    simp only [Frame.moves]
    omega

/-- A body that is repeated once less takes fewer moves. -/
theorem weight_repeat (n : Nat) (body : List Step) (rest : List Frame) :
    weight (.steps body :: .repeating n body :: rest) .goOn <
      Frame.movesAll (.repeating (n + 1) body :: rest) := by
  have again : (n + 1) * (Step.movesAll body + 2) =
      n * (Step.movesAll body + 2) + (Step.movesAll body + 2) := Nat.succ_mul _ _
  simp only [weight, arrivalMoves, Frame.movesAll, Frame.moves]
  omega

/-- Whether a move leaves fewer moves than there were, and inner frames only. -/
def Lighter (bound : Nat) : Except Walked (List Frame × Arrival) → Prop
  | .ok (frames, a) => weight frames a < bound ∧ frames.all Frame.isInner = true
  | .error (.handed _ frames) => frames.all Frame.isInner = true
  | .error (.finished _) => False

section

variable {m : Machine} {task : Option Ref} {frame : Frame} {frames rest : List Frame} {a : Arrival}
  {bound : Nat}

namespace Lighter

theorem mono {x : Except Walked (List Frame × Arrival)} {more : Nat} (h : Lighter bound x)
    (le : bound ≤ more) : Lighter more x := by
  rcases x with ⟨r, kept⟩ | ⟨frames, a⟩
  · exact h
  · exact h
  · exact ⟨Nat.lt_of_lt_of_le h.1 le, h.2⟩

/-- The frames go on or end. -/
theorem goesOn (lt : weight frames .goOn < bound) (inner : frames.all Frame.isInner = true) :
    Lighter bound (.ok (frames, .goOn)) := ⟨lt, inner⟩

theorem ended (inner : frames.all Frame.isInner = true) (c : Completion)
    (lt : Frame.movesAll frames + 1 < bound) : Lighter bound (.ok (frames, .ended c)) :=
  ⟨weight_ended frames c ▸ lt, inner⟩

/-- A frame is left. -/
theorem outward (others : rest.all Frame.isInner = true) (c : Completion)
    (le : frame.moves + Frame.movesAll rest ≤ bound) : Lighter bound (.ok (rest, .ended c)) := by
  have two := Frame.two_le_moves frame
  exact .ended others c (by omega)

/-- Something is handed to the task, and a frame waits for it. -/
theorem handed {f : Frame} (here : f.isInner = true) (others : rest.all Frame.isInner = true)
    (r : Ref) : Lighter bound (.error (.handed r (f :: rest))) := by
  show (f :: rest).all Frame.isInner = true
  rw [List.all_cons, here, others]
  rfl

end Lighter

/-- What comes of waiting at a gate. -/
theorem waitAt_always {gate : String} {frame : Ref → Frame} {opened : Ref → Eval Unit}
    (inner : rest.all Frame.isInner = true) (pushed : ∀ f, (frame f).isInner = true) :
    Always (fun x => match x with
      | .ok a => a = .goOn ∨ ∃ c, a = .ended c
      | .error (.handed _ frames) => frames.all Frame.isInner = true
      | .error (.finished _) => False) (waitAt rest gate frame opened) := by
  refine .bind fun loop => .bind fun entered => ?_
  rcases entered with e | v | f
  · exact .pure (.inr ⟨_, rfl⟩)
  · refine .pure ?_
    show (frame v :: rest).all Frame.isInner = true
    rw [List.all_cons, pushed, inner]
    rfl
  · refine .bind fun noted => ?_
    cases noted with
    | none => exact .pure (.inl rfl)
    | some e => exact .pure (.inr ⟨_, rfl⟩)

theorem afterWait_lighter {gate : String} {frame : Ref → Frame} {opened : Ref → Eval Unit}
    (inner : rest.all Frame.isInner = true) (pushed : ∀ f, (frame f).isInner = true)
    (goesOn : weight rest .goOn < bound) (ended : Frame.movesAll rest + 1 < bound) :
    Always (Lighter bound) (do
      match (← waitAt rest gate frame opened) with
      | .ok arrival => pure (.ok (rest, arrival))
      | .error w => pure (.error w)) := by
  refine .bind_of (waitAt_always inner pushed) fun x hx => ?_
  rcases x with ⟨r, kept⟩ | a
  · exact .pure hx
  · exact hx.elim
  · rcases hx with rfl | ⟨c, rfl⟩
    · exact .pure (.goesOn goesOn inner)
    · exact .pure (.ended inner c ended)

theorem performStep_lighter (s : Step) (silent : ∀ v, s ≠ .emit v)
    (inner : frames.all Frame.isInner = true) (seated : arrivalMoves frames .goOn = 0) :
    Always (Lighter (Frame.movesAll frames + s.moves)) (performStep m task frames s) := by
  have two : 2 ≤ s.moves := by cases s <;> simp only [Step.moves] <;> omega
  have lt : weight frames .goOn < Frame.movesAll frames + s.moves := by
    rw [weight, seated]
    omega
  have gone : Lighter (Frame.movesAll frames + s.moves) (.ok (frames, .goOn)) := .goesOn lt inner
  have ended (c : Completion) : Lighter (Frame.movesAll frames + s.moves) (.ok (frames, .ended c)) :=
    .ended inner c (by omega)
  cases s with
  | emit v => exact absurd rfl (silent v)
  | log text => exact .bind fun _ => .pure gone
  | giveWay n =>
    cases n with
    | zero => exact .pure gone
    | succ n => exact .pure (.handed rfl inner _)
  | wait gate label => exact afterWait_lighter inner (fun _ => rfl) lt (by omega)
  | stubborn gate => exact afterWait_lighter inner (fun _ => rfl) lt (by omega)
  | ret value => exact .bind fun c => .pure (ended c)
  | raise e => exact .bind fun c => .pure (ended c)
  | guarded body _ _ | «finally» body _ | «repeat» _ body | await body =>
    -- the frames that are pushed take what the step has been reckoned to take
    refine .pure (.goesOn ?_ (by simpa [Frame.isInner] using inner))
    simp only [weight, arrivalMoves, Frame.movesAll, Frame.moves, Step.moves]
    omega
  | cancelSelf =>
    cases task with
    | none => exact .pure gone
    | some t => exact .bind fun _ => .pure gone
  | stopLoop => exact .bind fun _ => .bind fun _ => .pure gone
  | finish => exact .pure (ended _)
  | interrupt => exact .bind fun _ => .pure gone

theorem leaveInto_lighter (c : Completion) (here : frame.isInner = true)
    (inner : rest.all Frame.isInner = true) :
    Always (Lighter (frame.moves + Frame.movesAll rest + 1)) (leaveInto m frame rest c) := by
  have two := Frame.two_le_moves frame
  have outward (c : Completion) :
      Lighter (frame.moves + Frame.movesAll rest + 1) (.ok (rest, .ended c)) :=
    .outward inner c (Nat.le_succ _)
  have stays (seated : arrivalMoves (frame :: rest) .goOn = 0) :
      Lighter (frame.moves + Frame.movesAll rest + 1) (.ok (frame :: rest, .goOn)) := by
    refine .goesOn ?_ ?_
    · rw [weight, seated]
      exact Nat.lt_succ_self _
    · rw [List.all_cons, here, inner]
      rfl
  cases frame with
  | steps s =>
    cases c with
    | normal => exact .pure (stays rfl)
    | _ => exact .pure (outward _)
  | generating s =>
    cases c with
    | normal => exact .pure (stays rfl)
    | returned v => exact .pure (outward _)
    | raised e => exact .bind fun memory => .ite (.bind fun _ => .pure (outward _)) (.pure (outward _))
  | guarded handler again =>
    cases c with
    | raised e =>
      refine .bind fun cancels => .ite (.pure (.goesOn ?_ (by simpa [Frame.isInner] using inner)))
        (.pure (outward _))
      simp only [weight, arrivalMoves, Frame.movesAll, Frame.moves]
      omega
    | _ => exact .pure (outward _)
  | handling again e => cases c <;> exact .pure (outward _)
  | cleanup final =>
    refine .pure (.goesOn ?_ (by simpa [Frame.isInner] using inner))
    simp only [weight, arrivalMoves, Frame.movesAll, Frame.moves]
    omega
  | cleaning pending => cases c <;> exact .pure (outward _)
  | repeating n body =>
    cases n with
    | zero => cases c <;> exact .pure (outward _)
    | succ n =>
      cases c with
      | normal =>
        exact .pure (.goesOn (Nat.lt_succ_of_lt (weight_repeat n body rest))
          (by simpa [Frame.isInner] using inner))
      | _ => exact .pure (outward _)
  | awaited logged =>
    have logs (v : Ref) : Always (Lighter ((Frame.awaited logged).moves + Frame.movesAll rest + 1))
        (leaveInto m (.awaited logged) rest (.returned v)) := by
      refine .ite (.bind fun shown => ?_) (.pure (outward _))
      cases shown with
      | ok t => exact .bind fun _ => .pure (outward _)
      | error e => exact .pure (outward _)
    cases c with
    | raised e => exact .bind fun memory => .ite (.bind fun _ => .pure (outward _)) (.pure (outward _))
    | normal => exact logs Ref.none
    | returned v => exact logs v
  | stubborn gate future =>
    cases c with
    | raised e =>
      have le := weight_le rest .goOn
      exact .bind fun cancels => .ite
        (.bind fun _ => afterWait_lighter inner (fun _ => rfl) (by omega) (by omega))
        (.pure (outward _))
    | _ => exact .pure (outward _)
  | item g => cases here
  | wrapping r => cases here
  | iterating it =>
    cases c with
    | raised e =>
      refine .bind fun x => ?_
      cases x with
      | ok r => exact .pure (.handed rfl inner _)
      | error c => exact .pure (outward _)
    | _ => exact .pure (outward _)
  | _ => exact .pure (outward _)

/-- A frame that nothing arrives at in such a way ends. -/
theorem Lighter.astray (inner : frames.all Frame.isInner = true) (h : arrivalMoves frames a = 2) :
    Lighter (weight frames a) (.ok (frames, .ended .normal)) :=
  .ended inner _ (by rw [weight, h]; omega)

theorem goesOn_lighter (silent : Silent (frame :: rest) .goOn)
    (inner : (frame :: rest).all Frame.isInner = true) :
    Always (Lighter (weight (frame :: rest) .goOn)) (moveOn m task (frame :: rest) .goOn) := by
  have ⟨here, others⟩ := (Bool.and_eq_true _ _).mp (List.all_cons ▸ inner)
  have outward (c : Completion) : Lighter (weight (frame :: rest) .goOn) (.ok (rest, .ended c)) :=
    .outward others c (Nat.le_add_right _ _)
  cases frame with
  | steps s =>
    cases s with
    | nil => exact .pure (outward _)
    | cons s more =>
      have w : weight (.steps (s :: more) :: rest) .goOn =
          Frame.movesAll (.steps more :: rest) + s.moves := by
        simp only [weight, arrivalMoves, Frame.movesAll, Frame.moves, Step.movesAll]
        omega
      rw [w]
      refine performStep_lighter s ?_ inner rfl
      rintro v rfl
      exact silent _ _ (.steps v more rest)
  | generating s =>
    cases s with
    | nil => exact .pure (outward _)
    | cons s more =>
      have w : weight (.generating (s :: more) :: rest) .goOn =
          Frame.movesAll (.generating more :: rest) + s.moves + 5 := by
        simp only [weight, arrivalMoves, Frame.movesAll, Frame.moves, Step.movesAll,
          List.length_cons]
        omega
      cases s with
      | emit v => exact absurd (.generating v more rest) (silent _ _)
      | finish => exact .pure (.ended (by simpa [Frame.isInner] using others) _ (by omega))
      | _ =>
        refine .pure (.goesOn ?_ (by simpa [Frame.isInner] using others))
        rw [w]
        simp only [weight, arrivalMoves, Frame.movesAll, Frame.moves, Step.movesAll]
        omega
  | repeating n body =>
    cases n with
    | zero => exact .pure (outward _)
    | succ n =>
      exact .pure (.goesOn (weight_repeat n body rest) (by simpa [Frame.isInner] using others))
  | wrapping r => cases here
  | item g => cases here
  | sleeping delay value =>
    refine .bind fun checked => ?_
    cases checked with
    | ok _ => exact .pure (.handed rfl others _)
    | error e => exact .pure (outward _)
  | pausing n => cases n <;> exact .pure (.astray inner rfl)
  | _ => exact .pure (.astray inner rfl)

theorem value_lighter (v : Ref) (inner : (frame :: rest).all Frame.isInner = true) :
    Always (Lighter (weight (frame :: rest) (.value v))) (moveOn m task (frame :: rest) (.value v)) := by
  have ⟨here, others⟩ := (Bool.and_eq_true _ _).mp (List.all_cons ▸ inner)
  have outward (c : Completion) : Lighter (weight (frame :: rest) (.value v)) (.ok (rest, .ended c)) :=
    .outward others c (Nat.le_add_right _ _)
  cases frame with
  | pausing n =>
    cases n with
    | zero => exact .pure (outward _)
    | succ n => exact .pure (.handed rfl others _)
  | waiting future label =>
    refine .bind fun pending => ?_
    split
    · exact .pure inner
    · refine .bind fun x => ?_
      cases x with
      | value v => exact .bind fun noted => .pure (outward _)
      | ended c => exact .pure (outward _)
      | goOn =>
        refine .pure (.goesOn ?_ others)
        calc weight rest .goOn ≤ Frame.movesAll rest + 2 := weight_le rest .goOn
          _ < weight (.waiting future label :: rest) (.value v) := by
            simp only [weight, arrivalMoves, Frame.movesAll, Frame.moves]
            omega
  | stubborn gate future =>
    refine .bind fun pending => ?_
    split
    · exact .pure inner
    · refine .bind fun x => ?_
      cases x with
      | ended c =>
        cases c with
        | raised e => exact (leaveInto_lighter _ here others).imp fun _ h => h.mono (Nat.le_succ _)
        | _ => exact .pure (outward _)
      | _ => exact .pure (outward _)
  | iterating it =>
    refine .bind fun x => ?_
    cases x with
    | ok r => exact .pure (.handed rfl others _)
    | error c => exact .pure (outward _)
  | sleeping delay value => exact .pure (outward _)
  | wrapping r => cases here
  | item g => cases here
  | steps s => cases s <;> exact .pure (.astray inner rfl)
  | generating s => cases s <;> exact .pure (.astray inner rfl)
  | _ => exact .pure (.astray inner rfl)

theorem moveOn_ended (frame : Frame) (rest : List Frame) (c : Completion) :
    moveOn m task (frame :: rest) (.ended c) = leaveInto m frame rest c := by
  cases frame <;> simp only [moveOn]

/-- Every move of a body on its own leaves fewer moves than there were. -/
theorem moveOn_lighter (some : frames ≠ []) (silent : Silent frames a)
    (inner : frames.all Frame.isInner = true) :
    Always (Lighter (weight frames a)) (moveOn m task frames a) := by
  obtain _ | ⟨frame, rest⟩ := frames
  · exact absurd rfl some
  cases a with
  | ended c =>
    have ⟨here, others⟩ := (Bool.and_eq_true _ _).mp (List.all_cons ▸ inner)
    rw [weight_ended, moveOn_ended]
    exact leaveInto_lighter c here others
  | goOn => exact goesOn_lighter silent inner
  | value v => exact value_lighter v inner

end

end Eval

end EmbeddedPython
