import EmbeddedPython.Proofs.Handle.Reading
import EmbeddedPython.Proofs.Host.Status

/-
  Extraction is strict

  Reading a value of a type comes to what the type makes of the object: a value
  that it accepts the object as, or the failure that it refuses it with. What is
  accepted is accepted in one way, so that a type accepts exactly the objects
  that can be read by it.
-/

namespace EmbeddedPython

open Op (Behaves translationDepth translate_translates)

/-! ## What is read of a live object -/

namespace Handle

variable {α : Type} {x : Handle}

/-- The name of the type of an object is asked for through its class. -/
theorem typeName_kind (hx : x.disposed = false) :
    Op.Carries translationDepth x.typeName (Eval.hostKind Machine.top x.ref) id := by
  have cls : Op.Carries translationDepth x.getType
      (do pure ((← Eval.memory).classOf x.ref)) adopt := by
    rw [getType, getTypeBy, live_run hx, pure_bind]
    exact (Op.owned_carries translate_translates [x.ref] _).guarded
  have named (cls : Handle) : Op.Honest translationDepth True (cls.getAttr "__name__") :=
    cls.getAttr_honest "__name__"
  have name := spend_carries cls (typeName_carries translate_translates) fun cls =>
    (named cls).level.bind fun name => spend_level (strBy_level translate_translates name)
  simp only [bind_assoc, pure_bind] at name
  exact name

theorem mismatch_behaves (hx : x.disposed = false) (expected : String) :
    Behaves (x.mismatch expected : Op α) fun m r n =>
      ∃ f, r = .error f ∧ Misfit expected x.ref m f n := by
  refine ⟨x.mismatch_honest expected, fun {t h} admits clear => ?_⟩
  have told := (typeName_kind hx).tells unknownType admits clear
  rw [mismatch, Op.perform_bind]
  generalize (Op.orElse unknownType x.typeName).perform t h = b at told ⊢
  cases told with
  | given _ holds => exact ⟨_, rfl, .named holds⟩
  | exhausted _ => exact ⟨_, rfl, .untold⟩

/-- A live object is handed to the interpreter under the lock. -/
theorem handed_behaves (hx : x.disposed = false) {next : Ref → Op α} {C : Behavior α}
    (hn : Behaves (next x.ref) C) :
    Behaves (do
      let r ← x.live
      Op.guarded do
        Op.passing [r]
        next r) C := by
  rw [live_run hx, pure_bind]
  exact .guarded (.after (.quiet (.passing [x.ref])) fun _ => hn)

/-- An object of another type is refused by its name. -/
theorem strict_behaves (hx : x.disposed = false) {f : Memory → Bool} {expected : String}
    {op : Op α} {C : Behavior α}
    (refused : ∀ {m e n}, f m = false → Misfit expected x.ref m e n → C m (.error e) n)
    (accepted : Behaves op fun m r n => f m = true → C m r n) :
    Behaves (do if !f (← Op.memory) then x.mismatch expected else op) C := by
  refine .deciding ((mismatch_behaves hx expected).mono fun misfit other => ?_) accepted
  obtain ⟨e, rfl, misfit⟩ := misfit
  exact refused other misfit

theorem unlessInteger_eq (r : Ref) (other integer : Op α) :
    (do if !(← isKind r .int) || (← isKind r .bool) then other else integer) =
      (do if !(← Op.memory).isInteger r then other else integer) := by
  apply Op.ext
  intro t h
  show (if !h.memory.isKind r .int || h.memory.isKind r .bool then other else integer).perform t h =
    (if !h.memory.isInteger r then other else integer).perform t h
  rw [Memory.isInteger, Bool.not_and, Bool.not_not]

theorem readInt_behaves (hx : x.disposed = false) :
    Behaves x.readInt fun m r n => Int64Reading x.ref m (r.map .int) n := by
  refine handed_behaves hx ?_
  rw [unlessInteger_eq]
  refine strict_behaves hx .refused ?_
  refine (Behaves.askNumber rfl [x.ref] (Eval.int64Of x.ref)).mono fun {m r n} comes integer => ?_
  by_cases within : Eval.minIndex ≤ m.integerOf x.ref ∧ m.integerOf x.ref ≤ Eval.maxIndex
  · have run := Eval.int64Of_within within.1 within.2
    cases comes with
    | returned run' =>
      cases run.symm.trans run'
      exact .accepted integer within.1 within.2
    | failed fails =>
      obtain ⟨_, _, run'⟩ := fails.raises
      cases run.symm.trans run'
  · have beyond : m.integerOf x.ref < Eval.minIndex ∨ Eval.maxIndex < m.integerOf x.ref := by omega
    have run := Eval.int64Of_beyond beyond
    cases comes with
    | returned run' => cases run.symm.trans run'
    | failed fails => exact .tooBig integer beyond (fails.congr run.symm.trans)

theorem extractInt32_behaves (hx : x.disposed = false) :
    Behaves (x.extract .int32) (Int32Reading x.ref) := by
  refine (readInt_behaves hx).bind (B := fun i m r n => n = m ∧
    (-2147483648 ≤ i ∧ i ≤ 2147483647 ∧ r = .ok (.int i) ∨ (i < -2147483648 ∨ 2147483647 < i) ∧
      r = .error (.error (.conversion "i32" ("int " ++ toString i))))) (fun i => ?_)
    (fun wide last => ?_) .failed
  · split
    · next beyond => exact .fail rfl fun _ => ⟨rfl, .inr ⟨beyond, rfl⟩⟩
    · next within => exact .pure _ fun _ => ⟨rfl, .inl ⟨by omega, by omega, rfl⟩⟩
  · obtain ⟨rfl, ⟨least, greatest, rfl⟩ | ⟨beyond, rfl⟩⟩ := last
    · exact .accepted wide least greatest
    · exact .tooBig wide beyond

theorem unlessNumber_eq (r : Ref) (other number : Op α) :
    (do
        if !(← isKind r .float) && (!(← isKind r .int) || (← isKind r .bool)) then other
        else number) = (do if !(← Op.memory).isNumber r then other else number) := by
  apply Op.ext
  intro t h
  show (if !h.memory.isKind r .float && (!h.memory.isKind r .int || h.memory.isKind r .bool)
    then other else number).perform t h =
      (if !h.memory.isNumber r then other else number).perform t h
  rw [Memory.isNumber, Memory.isInteger, Bool.not_or, Bool.not_and, Bool.not_not]

theorem readFloat_behaves (hx : x.disposed = false) :
    Behaves x.readFloat fun m r n => FloatReading x.ref m (r.map .float) n := by
  refine handed_behaves hx ?_
  rw [unlessNumber_eq]
  refine strict_behaves hx .refused ?_
  refine (Behaves.askNumber rfl [x.ref]
    (Eval.doubleOf Machine.top x.ref)).mono fun comes number => ?_
  cases comes with
  | returned run => exact .accepted number run
  | failed fails => exact .raised number fails

/-- No singleton but True and False is a truth value. -/
theorem truth_of_immortal {r : Ref} {m : Memory} (immortal : r.isImmortal = true)
    (truth : m.isKind r .bool = true) : r = Ref.ofBool (r == Ref.ofBool true) := by
  cases r with
  | cell id => cases immortal
  | static s =>
    cases s with
    | truth b => cases b <;> rfl
    | none => exact absurd truth Bool.false_ne_true
    | _ => cases immortal

theorem readTruth_behaves (hx : x.disposed = false) :
    Behaves x.readTruth fun m r n => TruthReading x.ref m (r.map .truth) n := by
  refine handed_behaves hx (strict_behaves (f := (·.isKind x.ref .bool)) hx .refused ?_)
  rw [isTruthy, live_run hx, pure_bind]
  split
  · next immortal => exact .pure _ fun m truth => .accepted (truth_of_immortal immortal truth)
  · next other =>
    rw [Op.askTruth_eq]
    have asked := Behaves.ask [x.ref] (Eval.truth Machine.top x.ref)
    refine .guarded (asked.mono fun comes truth => ?_)
    have other : x.ref.isImmortal = false := Bool.eq_false_iff.mpr other
    cases comes with
    | returned run => exact .asked other truth (.returned run)
    | failed fails => exact .asked other truth (.failed fails)

theorem readText_behaves (hx : x.disposed = false) :
    Behaves x.readText fun m r n => TextReading x.ref m (r.map .text) n := by
  refine handed_behaves hx (strict_behaves (f := (·.isKind x.ref .str)) hx .refused ?_)
  refine (Behaves.ask [x.ref] (Eval.utf8Of x.ref)).mono fun comes text => ?_
  cases comes with
  | returned run =>
    obtain ⟨t, value, plain, rfl, rfl⟩ := Eval.utf8Of_returned run
    exact .accepted text value plain
  | failed fails => exact .raised text fails

theorem extractUnit_behaves (hx : x.disposed = false) :
    Behaves (x.extract .unit) (UnitReading x.ref) := by
  rw [extract]
  split
  · next none => exact .pure _ fun _ => .accepted (beq_iff_eq.mp none)
  · next other =>
    refine (mismatch_behaves hx "None").mono fun misfit => ?_
    obtain ⟨e, rfl, misfit⟩ := misfit
    exact .refused (fun none => other (beq_iff_eq.mpr none)) misfit

theorem clone_behaves (hx : x.disposed = false) :
    Behaves x.clone fun m r n => r = .ok (adopt x.ref) ∧ n = m := by
  rw [clone, live_run hx, pure_bind]
  split
  · exact .after (.guarded (.quiet (.bind (.passing [x.ref]) fun _ => .hold x.ref))) fun _ =>
      .pure _ fun _ => ⟨rfl, rfl⟩
  · exact .pure _ fun _ => ⟨rfl, rfl⟩

/-! ## Sequences -/

/-- What comes of an item that could be had, and of those after it. -/
inductive ItemReading (inner : Reading HostValue) (r : Ref) (i left : Nat) (item : Ref)
    (m : Memory) :
    Except Failure (List HostValue) → Memory → Prop
  | failed {f : Failure} {n : Memory} (failed : inner item m (.error f) n) :
      ItemReading inner r i left item m (.error f) n
  | next {j n : Memory} {v : HostValue} {rest : Except Failure (List HostValue)}
      (accepted : inner item m (.ok v) j) (others : ItemsReading inner r (i + 1) left j rest n) :
      ItemReading inner r i left item m (rest.map (v :: ·)) n

theorem readItems_behaves {read : Handle → Op HostValue} {inner : Reading HostValue}
    (honest : ∀ x, Op.Honest translationDepth True (read x))
    (hr : ∀ x : Handle, x.disposed = false → Behaves (read x) (inner x.ref)) (r : Ref)
    (i left : Nat) : Behaves (readItems read r i left) (ItemsReading inner r i left) := by
  induction left generalizing i with
  | zero => exact .pure _ fun _ => .done
  | succ left ih =>
    refine (Behaves.request [r] (Eval.sequenceItemAt Machine.top r i)).bind
      (B := fun x m res n => x.disposed = false → ItemReading inner r i left x.ref m res n)
      (fun x => .assuming ?_ fun hx => ?_) (fun comes last => ?_) fun comes => ?_
    · exact .bind (.spend (honest x)) fun v =>
        .bind (.onFailure (readItems_honest honest r (i + 1) left) (dropValue_quiet v)) fun _ =>
          .pure _
    · have others (v : HostValue) := (ih (i + 1)).onFailure (dropValue_quiet v)
      refine (hr x hx).spend.bind (B := fun v m res n => ∃ rest,
        ItemsReading inner r (i + 1) left m rest n ∧ res = rest.map (v :: ·))
        (fun v => .map (v :: ·) ((others v).mono fun rest => ⟨_, rest, rfl⟩))
        (fun accepted last => ?_) .failed
      obtain ⟨rest, others, rfl⟩ := last
      exact .next accepted others
    · cases comes with
      | returned run =>
        cases last rfl with
        | failed failed => exact .failed run failed
        | next accepted others => exact .next run accepted others
    · cases comes with
      | failed fails => exact .missing fails

/-- What comes of a sequence whose length is known. -/
inductive MeasuredReading (width : Nat) (inner : Reading HostValue) (r : Ref) (count : Int)
    (m : Memory) : Except Failure (List HostValue) → Memory → Prop
  | tooLong (beyond : HostType.greatestSize < count.toNat * width) :
      MeasuredReading width inner r count m (.error (.panic "capacity overflow")) m
  | items {vs : Except Failure (List HostValue)} {n : Memory}
      (room : count.toNat * width ≤ HostType.greatestSize)
      (items : ItemsReading inner r 0 count.toNat m vs n) :
      MeasuredReading width inner r count m vs n

theorem readList_behaves {read : Handle → Op HostValue} {inner : Reading HostValue} (width : Nat)
    (honest : ∀ x, Op.Honest translationDepth True (read x))
    (hr : ∀ x : Handle, x.disposed = false → Behaves (read x) (inner x.ref))
    (hx : x.disposed = false) :
    Behaves (x.readList width read) fun m r n =>
      ListReading width inner x.ref m (r.map .list) n := by
  refine handed_behaves hx (.asking [x.ref] (Eval.isSequence_run x.ref) fun sequence =>
    .looking (f := (·.isKind x.ref .str)) fun text => ?_)
  by_cases proper : sequence = true ∧ text = false
  · obtain ⟨rfl, rfl⟩ := proper
    -- a negative length does not come of the call, but of its failure
    refine .enterOr [x.ref] (Eval.length Machine.top x.ref) (B := fun count m r n =>
      0 ≤ count → MeasuredReading width inner x.ref count m r n) (fun _ _ _ => rfl)
      (fun count => ?_) (fun length measured noText sequence => ?_) fun fails noText sequence =>
        .endless sequence noText fails
    · by_cases negative : count < 0
      · rw [if_pos negative]
        exact .assuming Op.fail_translate_honest fun least => absurd negative (by omega)
      · rw [if_neg negative]
        split
        · next beyond => exact .panic _ fun _ _ => .tooLong beyond
        · next room =>
          exact (readItems_behaves honest hr x.ref 0 count.toNat).mono fun items _ =>
            .items (by omega) items
    · cases measured (Eval.length_nonneg length) with
      | tooLong beyond => exact .tooLong sequence noText length beyond
      | items room items => exact .items sequence noText length room items
  · have improper : (!sequence || text) = true := by
      revert proper
      cases sequence <;> cases text <;> decide
    rw [if_pos improper]
    refine (mismatch_behaves hx "sequence").mono fun misfit isText isSequence => ?_
    obtain ⟨e, rfl, misfit⟩ := misfit
    refine .refused ?_ misfit
    rw [isSequence, isText]
    revert proper
    cases sequence <;> cases text <;> decide

/-- Reading a value of a type comes to what the type makes of the object. -/
theorem extract_behaves (t : HostType) {x : Handle} (hx : x.disposed = false) :
    Behaves (x.extract t) (t.reading x.ref) := by
  induction t generalizing x with
  | int64 => exact .map _ (readInt_behaves hx)
  | int32 => exact extractInt32_behaves hx
  | float => exact .map _ (readFloat_behaves hx)
  | truth => exact .map _ (readTruth_behaves hx)
  | text => exact .map _ (readText_behaves hx)
  | unit => exact extractUnit_behaves hx
  | handle =>
    refine .map _ ((clone_behaves hx).mono fun cloned => ?_)
    obtain ⟨rfl, rfl⟩ := cloned
    exact .accepted
  | option t ih =>
    rw [extract]
    split
    · next none => exact .pure _ fun _ => .none (beq_iff_eq.mp none)
    · next other =>
      have other : x.ref ≠ Ref.none := fun none => other (beq_iff_eq.mpr none)
      refine .map _ ((ih hx).mono fun {m r n} read => ?_)
      cases r with
      | ok v => exact .some other read
      | error f => exact .failed other read
  | list t ih =>
    exact .map _ (readList_behaves t.width (fun item => item.extract_honest t) (fun _ => ih) hx)

end Handle

/-! ## What a type accepts -/

namespace Handle

/-- A value can be read of an object exactly as its type accepts the object. Where nothing can be
read the type refuses the object with the same failure; the stack is used up only by exceptions
that are raised in telling others. -/
theorem extract_accepts_exactly (t : HostType) {x : Handle} {u : ThreadId} {h : Host}
    (live : x.disposed = false) (admits : h.Admits u) (clear : h.pending = Option.none) :
    (∀ (v : HostValue) (m : Memory), t.reading x.ref h.memory (.ok v) m ↔
      ∃ k, (x.extract t).perform u h = (.ok v, k) ∧ k.memory = m) ∧
    ∀ (f : Failure) (k : Host), (x.extract t).perform u h = (.error f, k) →
      t.reading x.ref h.memory (.error f) k.memory ∧
        (f = .overflow → h.raised.length + translationDepth < k.raised.length) := by
  have comes := (extract_behaves t live).comes admits clear
  have honest : Op.Honest translationDepth True (x.extract t) := extract_honest x t
  have ends := honest.ends (fun _ => admits) clear
  generalize (x.extract t).perform u h = b at comes ends ⊢
  obtain ⟨res, k⟩ := b
  refine ⟨fun v m => ⟨fun accepted => ?_, ?_⟩, ?_⟩
  · obtain ⟨rfl, rfl⟩ := t.reading_definite accepted comes
    exact ⟨k, rfl, rfl⟩
  · rintro ⟨k, same, rfl⟩
    cases same
    exact comes
  · rintro f k same
    cases same
    refine ⟨comes, ?_⟩
    rintro rfl
    cases ends with
    | exhausted deep => exact deep

/-- A memory with the list of one and nothing. -/
def oneAndNothing : Memory :=
  { Memory.fresh with cells := #[⟨Ref.ofBuiltin .list, .list [.static (.smallInt 1), .none],
    Option.none⟩] }

theorem one_and_nothing_are_read : ∃ k,
    ((adopt (.cell 0)).extract (.list (.option .int64))).perform 0
      { Host.fresh with memory := oneAndNothing } = (.ok (.list [.some (.int 1), .none]), k) ∧
    k.memory = oneAndNothing := by
  have accepts := (extract_accepts_exactly (.list (.option .int64)) (x := adopt (.cell 0))
    (u := 0) (h := { Host.fresh with memory := oneAndNothing }) rfl (.inl rfl) rfl).1
  refine (accepts (.list [.some (.int 1), .none]) oneAndNothing).mp ?_
  have one : OptionReading Int64Reading (.static (.smallInt 1)) oneAndNothing
      (.ok (.some (.int 1))) oneAndNothing :=
    .some (by decide) (.accepted (m := oneAndNothing) rfl (by decide) (by decide))
  have items : ItemsReading (OptionReading Int64Reading) (.cell 0) 0 2 oneAndNothing
      (.ok [.some (.int 1), .none]) oneAndNothing :=
    .cons rfl one (.cons rfl (.none rfl) .done)
  exact ListReading.accepted rfl rfl rfl (by decide) items

/-- A memory with one integer that is larger than any double. -/
def hugeInteger : Memory :=
  { Memory.fresh with cells := #[⟨Ref.ofBuiltin .int, .int (Int.pow 10 400), Option.none⟩] }

/-- Not all integers can be read as floats. -/
theorem huge_integer_is_no_float : hugeInteger.isInteger (.cell 0) = true ∧
    ∀ v : HostValue, (((adopt (.cell 0)).extract .float).perform 0
      { Host.fresh with memory := hugeInteger }).1 ≠ .ok v := by
  refine ⟨rfl, fun v returned => ?_⟩
  have comes := (extract_behaves .float (x := adopt (.cell 0)) rfl).comes (t := 0)
    (h := { Host.fresh with memory := hugeInteger }) (.inl rfl) rfl
  have raising : Eval.Raising (Eval.floatOfInt (Int.pow 10 400)) :=
    Eval.floatOfInt_raising (by decide +kernel)
  rw [returned] at comes
  cases comes with
  | accepted number run =>
    rw [Eval.doubleOf_integer rfl rfl rfl] at run
    exact raising.not_returned run

end Handle

end EmbeddedPython
