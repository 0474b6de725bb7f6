import EmbeddedPython.Proofs.Asyncio.Walking
import EmbeddedPython.Proofs.Interpreter.Holding

namespace EmbeddedPython

open Eval

/-- What a body comes to when it goes on. -/
inductive Halt where
  /-- it hands something to the task and waits -/
  | waits (r : Ref) (frames : List Frame)
  /-- it yields an item, and goes on from there when it is asked for the next one -/
  | yields (item : Ref) (frames : List Frame)
  | ends (c : Completion)

/-- How a body goes on in the task that asks it for an item: the moves over its own frames until it
comes to something, each of which leaves alone what is given. -/
inductive Goes (leaves : Memory → Memory → Prop) (task : Option Ref) :
    List Frame → Arrival → Memory → Halt → Memory → Prop where
  | ends (c : Completion) (m : Memory) : Goes leaves task [] (.ended c) m (.ends c) m
  | waits {frames left : List Frame} {a : Arrival} {m n : Memory} {r : Ref}
      (silent : Silent frames a)
      (run : (moveOn Machine.top task frames a).run m = (.ok (.error (.handed r left)), n))
      (alone : leaves m n) : Goes leaves task frames a m (.waits r left) n
  | yields {frames left : List Frame} {a : Arrival} {m n : Memory} {b : Blueprint} {v : Ref}
      (emits : Emits frames a b left)
      (built : (build Machine.top b).run m = (.ok v, n)) (alone : leaves m n) :
      Goes leaves task frames a m (.yields v left) n
  | fails {frames left : List Frame} {a : Arrival} {m n k : Memory} {b : Blueprint} {e : Ref}
      {h : Halt} (emits : Emits frames a b left)
      (raised : (build Machine.top b).run m = (.error e, n)) (alone : leaves m n)
      (rest : Goes leaves task left (.ended (.raised e)) n h k) : Goes leaves task frames a m h k
  | moves {frames next : List Frame} {a a' : Arrival} {m n k : Memory} {h : Halt}
      (some : frames ≠ []) (silent : Silent frames a)
      (run : (moveOn Machine.top task frames a).run m = (.ok (.ok (next, a')), n))
      (alone : leaves m n) (rest : Goes leaves task next a' n h k) : Goes leaves task frames a m h k

/-- The frames with which a body goes on. -/
def Halt.left : Halt → List Frame
  | .waits _ frames | .yields _ frames => frames
  | .ends _ => []

namespace Eval

variable {task : Option Ref} {frames left : List Frame} {a : Arrival} {m n k : Memory} {b : Blueprint}

theorem splitAtItem_inner (inner : frames.all Frame.isInner = true) (g : Ref) (outside : List Frame) :
    splitAtItem (frames ++ .item g :: outside) = (frames, some (g, outside)) := by
  induction frames with
  | nil => rfl
  | cons f rest ih =>
    rw [List.all_cons, Bool.and_eq_true] at inner
    rw [List.cons_append]
    cases f with
    | item g => cases inner.1
    | _ => simp only [splitAtItem, ih inner.2]

theorem moveOn_emits (mach : Machine) (emits : Emits frames a b left) (below : List Frame) :
    moveOn mach task (frames ++ below) a = performStep mach task (left ++ below) (.emit b) := by
  cases emits <;> rfl

theorem Emits.lighter (emits : Emits frames a b left) (c : Completion) :
    weight left (.ended c) < weight frames a := by
  cases emits <;>
    simp only [weight, arrivalMoves, Frame.movesAll, Frame.moves, Step.movesAll, Step.moves,
      List.length_cons] <;> omega

theorem Emits.inner (emits : Emits frames a b left) (inner : frames.all Frame.isInner = true) :
    left.all Frame.isInner = true := by
  cases emits <;> exact inner


end Eval

/-- The end of the walk of the task that awaits an item by an exception. -/
def leaving (e : Ref) : Eval Walked := do
  let e ← if (← memory).isException e .stopIteration then raisedInside "generator" e else pure e
  pure (.finished (.raised e))

/-- What the walk of the task that awaits an item comes to when the body has come to something. -/
def Halt.delivered (generator step : Ref) : Halt → Eval Walked
  | .waits r frames => pure (.handed r (frames ++ [.item generator, .wrapping step]))
  | .yields item frames => do
    setGenerator generator .suspended frames
    pure (.finished (.returned item))
  | .ends c => do
    setGenerator generator .finished []
    match c with
    | .raised e => leaving e
    | _ => do leaving (← newException .stopAsyncIteration [])

namespace Eval

variable {g step : Ref} {leaves : Memory → Memory → Prop} {halt : Halt}

theorem walk_finished (mach : Machine) (c : Completion) (fuel : Nat) :
    walk mach task (fuel + 1) [] (.ended c) = pure (.finished c) := by
  simp only [walk, moveOn, pure_bind]

theorem walk_returned (mach : Machine) (v : Ref) (fuel : Nat) :
    walk mach task (fuel + 2) [.wrapping step] (.ended (.returned v)) =
      pure (.finished (.returned v)) := by
  rw [walk, moveOn_ended]
  simp only [leaveInto, pure_bind, walk_finished]

theorem walk_raised (mach : Machine) (e : Ref) (fuel : Nat) :
    walk mach task (fuel + 2) [.wrapping step] (.ended (.raised e)) = leaving e := by
  rw [walk, moveOn_ended]
  simp only [leaveInto, leaving, bind_assoc]
  congr 1
  funext m
  split <;> simp only [bind_assoc, pure_bind, walk_finished]

theorem walk_ended (mach : Machine) (c : Completion) (fuel : Nat) :
    walk mach task (fuel + 3) [.item g, .wrapping step] (.ended c) =
      (Halt.ends c).delivered g step := by
  rw [walk, moveOn_ended]
  simp only [leaveInto, Halt.delivered, bind_assoc]
  congr 1
  funext _
  cases c <;> simp only [bind_assoc, pure_bind, walk_raised]

/-- A move of a body is a move of the task that awaits the item. -/
theorem moveOn_below {x : Except Walked (List Frame × Arrival)} (some : frames ≠ [])
    (silent : Silent frames a) (run : (moveOn Machine.top task frames a).run m = (.ok x, n))
    (below : List Frame) :
    (moveOn Machine.top task (frames ++ below) a).run m = (.ok (onto below x), n) := by
  rw [moveOn_onto some silent, ← bind_pure_comp, run_bind_ok run]
  rfl

theorem Emits.some (emits : Emits frames a b left) : frames ≠ [] := by
  cases emits <;> exact List.cons_ne_nil _ _

end Eval

namespace Goes

variable {task : Option Ref} {frames : List Frame} {a : Arrival} {m k : Memory} {g step : Ref}
  {leaves : Memory → Memory → Prop} {halt : Halt}

/-- The walk of the task that awaits an item makes the moves of the body, and has moves left to
leave the frames of the task. -/
theorem walk (goes : Goes leaves task frames a m halt k)
    (inner : frames.all Frame.isInner = true) : ∀ fuel, weight frames a + 2 < fuel →
    (Eval.walk Machine.top task fuel (frames ++ [.item g, .wrapping step]) a).run m =
      (halt.delivered g step).run k := by
  induction goes with
  | ends c m =>
    intro fuel enough
    obtain ⟨fuel, rfl⟩ : ∃ n, fuel = n + 3 := ⟨fuel - 3, by omega⟩
    rw [List.nil_append, walk_ended]
  | @waits frames left a m n r silent run alone =>
    intro fuel enough
    obtain ⟨fuel, rfl⟩ : ∃ n, fuel = n + 1 := ⟨fuel - 1, by omega⟩
    have some : frames ≠ [] := by
      rintro rfl
      cases a <;> cases run
    rw [Eval.walk, run_bind_ok (moveOn_below some silent run _)]
    rfl
  | @yields frames left a m n b v emits built alone =>
    intro fuel enough
    obtain ⟨fuel, rfl⟩ : ∃ n, fuel = n + 3 := ⟨fuel - 3, by omega⟩
    have item : (tryCatch (do pure (Except.ok (← build Machine.top b)))
        fun e => pure (.error e) : Eval (Except Ref Ref)).run m = (.ok (.ok v), n) := by
      rw [run_tryCatch, run_bind_ok built]
      rfl
    rw [Eval.walk, moveOn_emits _ emits, performStep, bind_assoc, run_bind_ok item,
      splitAtItem_inner (emits.inner inner)]
    simp only [bind_assoc, pure_bind, walk_returned]
    rfl
  | @fails frames left a m n k b e h emits raised alone rest ih =>
    intro fuel enough
    obtain ⟨fuel, rfl⟩ : ∃ n, fuel = n + 1 := ⟨fuel - 1, by omega⟩
    have failed : (tryCatch (do pure (Except.ok (← build Machine.top b)))
        fun e => pure (.error e) : Eval (Except Ref Ref)).run m = (.ok (.error e), n) := by
      rw [run_tryCatch, run_bind, raised]
      rfl
    rw [Eval.walk, moveOn_emits _ emits, performStep, bind_assoc, run_bind_ok failed, pure_bind]
    have lighter := emits.lighter (.raised e)
    exact ih (emits.inner inner) fuel (by omega)
  | @moves frames next a a' m n k h some silent run alone rest ih =>
    intro fuel enough
    obtain ⟨fuel, rfl⟩ : ∃ n, fuel = n + 1 := ⟨fuel - 1, by omega⟩
    obtain ⟨lighter, inner'⟩ := moveOn_lighter some silent inner _ _ _ run
    rw [Eval.walk, run_bind_ok (moveOn_below some silent run _)]
    exact ih inner' fuel (by omega)

/-- Frames that stay are inner ones. -/
theorem kept (goes : Goes leaves task frames a m halt k) (inner : frames.all Frame.isInner = true) :
    halt.left.all Frame.isInner = true := by
  induction goes with
  | ends c m => rfl
  | @waits frames left a m n r silent run alone =>
    have some : frames ≠ [] := by
      rintro rfl
      cases a <;> cases run
    exact moveOn_lighter some silent inner _ _ _ run
  | yields emits built alone => exact emits.inner inner
  | fails emits raised alone rest ih => exact ih (emits.inner inner)
  | moves some silent run alone rest ih => exact ih (moveOn_lighter some silent inner _ _ _ run).2

end Goes

/-! ## Generators -/
/-- Whether frames are those of a generator with what it awaits. -/
def Bodied (frames : List Frame) : Prop :=
  ∃ above steps, frames = above ++ [.generating steps] ∧ above.all Frame.isInner = true

namespace Bodied

variable {frames left : List Frame} {a : Arrival} {b : Blueprint}

theorem inner (h : Bodied frames) : frames.all Frame.isInner = true := by
  obtain ⟨above, steps, rfl, inner⟩ := h
  rw [List.all_append, inner]
  rfl

theorem some (h : Bodied frames) : frames ≠ [] := by
  obtain ⟨above, steps, rfl, -⟩ := h
  exact List.append_ne_nil_of_right_ne_nil _ (List.cons_ne_nil _ _)

theorem cons {frame : Frame} (h : Bodied frames) (inner : frame.isInner = true) :
    Bodied (frame :: frames) := by
  obtain ⟨above, steps, rfl, others⟩ := h
  refine ⟨frame :: above, steps, rfl, ?_⟩
  rw [List.all_cons, inner, others]
  rfl

theorem single (steps : List Step) : Bodied [.generating steps] := ⟨[], steps, rfl, rfl⟩

/-- A generator stays one when it yields an item. -/
theorem emits (h : Bodied frames) (emits : Emits frames a b left) : Bodied left := by
  obtain ⟨above, steps, same, inner⟩ := h
  cases emits with
  | steps item more rest =>
    obtain _ | ⟨_, above⟩ := above
    · cases same
    · obtain ⟨rfl, rfl⟩ := List.cons.inj same
      rw [List.all_cons, Bool.and_eq_true] at inner
      exact cons ⟨above, steps, rfl, inner.2⟩ rfl
  | generating item more rest =>
    obtain _ | ⟨_, above⟩ := above
    · obtain ⟨-, rfl⟩ := List.cons.inj same
      exact single more
    · obtain ⟨rfl, rfl⟩ := List.cons.inj same
      rw [List.all_cons, Bool.and_eq_true] at inner
      exact cons ⟨above, steps, rfl, inner.2⟩ rfl

end Bodied

/-- Whether a generator does not end with an exception that it must not let out. -/
def Completion.Proper (m : Memory) (c : Completion) : Prop :=
  ∀ e, c = .raised e → m.isException e .stopIteration = false

/-- Whether a move leaves a generator, or its end. -/
def Stays (n : Memory) : Except Walked (List Frame × Arrival) → Prop
  | .ok (frames, a) => Bodied frames ∨ frames = [] ∧ ∃ c, a = .ended c ∧ c.Proper n
  | .error (.handed _ frames) => Bodied frames
  | .error (.finished _) => False

theorem Eval.Emits.onto {frames left : List Frame} {a : Arrival} {b : Blueprint}
    (h : Emits frames a b left) (below : List Frame) :
    Emits (frames ++ below) a b (left ++ below) := by
  cases h <;> constructor

/-- Whether a generator that has come to something stays one, or has ended. -/
def Halt.Stays (k : Memory) : Halt → Prop
  | .waits _ left | .yields _ left => Bodied left
  | .ends c => c.Proper k

/-- What takes the place of an exception that must not be let out is none of those. -/
theorem raisedInside_run (kind : String) (e : Ref) (m : Memory) :
    ∃ r n, (raisedInside kind e).run m = (.ok r, n) ∧ m.Adds n ∧
      n.classOf r = Ref.ofExceptionClass .runtimeError := by
  obtain ⟨t, k, text, adds, -⟩ := newText_makes (.ofString (kind ++ " raised " ++ m.typeName e)) m
  obtain ⟨r, n, made, adds', -, holds⟩ :=
    make_makes (.exception .runtimeError) (.exception [t] .nothing) k
  refine ⟨r, n, ?_, adds.trans adds', holds.cls⟩
  have named : (typeName e).run m = (.ok (m.typeName e), m) := rfl
  have string : (newString (kind ++ " raised " ++ m.typeName e)).run m = (.ok t, k) := text
  rw [raisedInside, run_bind_ok named, run_bind_ok string]
  exact made

theorem isException_builtin {m : Memory} {e : Ref} {c : ExceptionClass}
    (h : m.classOf e = Ref.ofExceptionClass c) (d : ExceptionClass) : m.isException e d =
      ((Builtin.exception c).lineage.map Ref.ofBuiltin).contains (Ref.ofExceptionClass d) := by
  rw [Memory.isException, Memory.isKind, Memory.isInstance, h]
  rfl

variable {m n : Memory} {task : Option Ref} {frames : List Frame} {a : Arrival}
  {x : Except Walked (List Frame × Arrival)}

/-- A generator lets out no exception that is not for it to raise. -/
theorem moveOn_generating {steps : List Step} (silent : Silent [.generating steps] a)
    (run : (moveOn Machine.top task [.generating steps] a).run m = (.ok x, n)) : Stays n x := by
  have stays (steps : List Step) (a : Arrival) : Stays n (.ok ([.generating steps], a)) :=
    .inl (.single steps)
  have gone {c : Completion} (proper : c.Proper n) : Stays n (.ok ([], .ended c)) :=
    .inr ⟨rfl, c, rfl, proper⟩
  cases a with
  | goOn =>
    cases steps with
    | nil =>
      cases run
      exact gone nofun
    | cons s more =>
      cases s with
      | emit v => exact absurd (.generating v more []) (silent _ _)
      | finish =>
        cases run
        exact stays more _
      | _ =>
        cases run
        exact .inl ((Bodied.single more).cons rfl |>.cons rfl)
  | value v =>
    have same : x = .ok ([.generating steps], .ended .normal) := by
      cases steps <;> cases run <;> rfl
    rw [same]
    exact stays steps _
  | ended c =>
    rw [moveOn_ended] at run
    cases c with
    | normal =>
      cases run
      exact stays steps _
    | returned v =>
      cases run
      exact gone nofun
    | raised e =>
      simp only [leaveInto] at run
      rw [run_memory_bind] at run
      split at run
      · obtain ⟨r, k, raised, -, cls⟩ := raisedInside_run "async generator" e m
        rw [run_bind_ok raised] at run
        cases run
        refine gone fun e he => ?_
        cases he
        rw [isException_builtin cls]
        decide
      · next proper =>
        cases run
        refine gone fun e' he => ?_
        cases he
        refine Bool.eq_false_iff.mpr fun h => proper ?_
        rw [h]
        rfl

/-- A move of a generator leaves it one, or is its end. -/
theorem moveOn_stays (bodied : Bodied frames) (silent : Silent frames a)
    (run : (moveOn Machine.top task frames a).run m = (.ok x, n)) : Stays n x := by
  obtain ⟨above, steps, rfl, inner⟩ := bodied
  by_cases empty : above = []
  · subst empty
    exact moveOn_generating silent run
  -- the move is one of what the generator awaits
  have quiet : Silent above a := fun item left emits => silent item _ (emits.onto _)
  rw [moveOn_onto empty quiet, ← bind_pure_comp, run_bind] at run
  generalize moved : (moveOn Machine.top task above a).run m = y at run
  obtain ⟨_ | y, k⟩ := y
  · cases run
  cases run
  have lighter := moveOn_lighter empty quiet inner _ _ _ moved
  rcases y with ⟨r, kept⟩ | ⟨next, a'⟩
  · exact ⟨kept, steps, rfl, lighter⟩
  · exact lighter.elim
  · exact .inl ⟨next, steps, rfl, lighter.2⟩

namespace Goes

variable {leaves : Memory → Memory → Prop} {halt : Halt} {k : Memory}

/-- A generator stays one while it goes on, and lets out no exception that is not for it to raise. -/
theorem bodied (goes : Goes leaves task frames a m halt k) : Bodied frames → halt.Stays k := by
  suffices stays : Bodied frames ∨ frames = [] ∧ (∃ c, a = .ended c ∧ c.Proper m) →
      halt.Stays k from fun bodied => stays (.inl bodied)
  induction goes with
  | ends c m =>
    rintro (bodied | ⟨-, c', same, proper⟩)
    · exact absurd rfl bodied.some
    · cases same
      exact proper
  | waits silent run alone =>
    rintro (bodied | ⟨rfl, c, rfl, -⟩)
    · exact moveOn_stays bodied silent run
    · cases run
  | yields emits built alone =>
    rintro (bodied | ⟨rfl, -⟩)
    · exact bodied.emits emits
    · cases emits
  | fails emits raised alone rest ih =>
    rintro (bodied | ⟨rfl, -⟩)
    · exact ih (.inl (bodied.emits emits))
    · cases emits
  | moves some silent run alone rest ih =>
    rintro (bodied | ⟨rfl, -⟩)
    · exact ih (moveOn_stays bodied silent run)
    · exact absurd rfl some

end Goes

end EmbeddedPython
