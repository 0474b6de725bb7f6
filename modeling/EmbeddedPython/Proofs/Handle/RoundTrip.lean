import EmbeddedPython.Proofs.Handle.Encoding
import EmbeddedPython.Proofs.Handle.Exceptions
import EmbeddedPython.Proofs.Handle.Extraction
import Mathlib.Data.List.TakeWhile

/-
  Converting a value and reading it back

  The object of a value is read as this value, whatever is in it. The one thing
  that gets lost is what an option holds if that is encoded as nothing: the
  object does not tell it from an option that holds nothing.
-/

namespace EmbeddedPython

open Op (translationDepth)

/-! ## What gets lost -/

/-- Whether the object of a value is the one that stands for nothing. -/
def HostValue.encodesNone : HostValue → Bool
  | unit | none => true
  | some v => v.encodesNone
  | _ => false

namespace HostType

/-- What a value is read back as. An option that holds what is encoded as nothing is empty then. -/
def readBack : HostType → HostValue → HostValue
  | option t, .some v => if v.encodesNone then .none else .some (t.readBack v)
  | list t, .list items => .list (items.map t.readBack)
  | _, v => v

/-- Whether no option in a value holds what is encoded as nothing. -/
def Tells : HostType → HostValue → Prop
  | option t, .some v => v.encodesNone = false ∧ t.Tells v
  | list t, .list items => ∀ v ∈ items, t.Tells v
  | _, _ => True

/-- Whether no value of the type is encoded as nothing. -/
def isNeverNone : HostType → Bool
  | unit | handle | option _ => false
  | _ => true

/-- Whether options are made only of types of which no value is encoded as nothing. -/
def isFaithful : HostType → Bool
  | option t => t.isNeverNone && t.isFaithful
  | list t => t.isFaithful
  | _ => true

theorem encodesNone_of_isNeverNone {t : HostType} {v : HostValue} (never : t.isNeverNone = true)
    (typed : t.Contains v) : v.encodesNone = false := by
  cases t with
  | unit | handle | option t => cases never
  | _ =>
    cases v with
    | _ => first | rfl | cases typed

theorem tells_of_isFaithful {t : HostType} {v : HostValue} (faithful : t.isFaithful = true)
    (typed : t.Contains v) : t.Tells v := by
  induction t generalizing v with
  | option t ih =>
    rw [isFaithful, Bool.and_eq_true] at faithful
    cases v with
    | some v => exact ⟨encodesNone_of_isNeverNone faithful.1 typed, ih faithful.2 typed⟩
    | _ => trivial
  | list t ih =>
    cases v with
    | list items => exact fun v hv => ih faithful (typed.1 v hv)
    | _ => trivial
  | _ => trivial

/-- A value is read back as it was exactly where nothing gets lost. -/
theorem readBack_eq_iff {t : HostType} {v : HostValue} : t.readBack v = v ↔ t.Tells v := by
  induction t generalizing v with
  | option t ih =>
    cases v with
    | some v =>
      rw [readBack, Tells]
      cases encodes : v.encodesNone with
      | true => simp
      | false => simp [ih]
    | _ => exact ⟨fun _ => trivial, fun _ => rfl⟩
  | list t ih =>
    cases v with
    | list items =>
      have each : items.map t.readBack = items.map id ↔ ∀ v ∈ items, t.readBack v = v :=
        List.map_inj_left
      rw [List.map_id] at each
      rw [readBack, Tells, HostValue.list.injEq, each]
      exact ⟨fun same v hv => ih.mp (same v hv), fun tells v hv => ih.mpr (tells v hv)⟩
    | _ => exact ⟨fun _ => trivial, fun _ => rfl⟩
  | _ => exact ⟨fun _ => trivial, fun _ => rfl⟩

theorem readBack_option_eq_none_iff {t : HostType} {v : HostValue} (typed : (option t).Contains v) :
    (option t).readBack v = .none ↔ v.encodesNone = true := by
  cases v with
  | none => exact ⟨fun _ => rfl, fun _ => rfl⟩
  | some v =>
    rw [readBack, HostValue.encodesNone]
    cases v.encodesNone <;> simp
  | _ => cases typed

end HostType

/-! ## Texts -/

namespace Text

theorem isSurrogate_toNat (c : Char) : isSurrogate c.toNat = false := by
  have valid : c.toNat < 0xD800 ∨ 0xDFFF < c.toNat ∧ c.toNat < 0x110000 := c.valid
  rw [isSurrogate, Bool.and_eq_false_iff, decide_eq_false_iff_not, decide_eq_false_iff_not]
  omega

theorem firstSurrogates_ofString (s : String) : (ofString s).firstSurrogates = none := by
  have plain : (ofString s).points.takeWhile (fun c => !isSurrogate c) = (ofString s).points := by
    rw [List.takeWhile_eq_self_iff]
    intro c hc
    obtain ⟨c, -, rfl⟩ := List.mem_map.mp hc
    rw [isSurrogate_toNat]
    rfl
  simp only [firstSurrogates, plain, List.drop_length, List.takeWhile_nil, List.isEmpty_nil,
    if_true]

theorem toStringLossy_ofString (s : String) : (ofString s).toStringLossy = s := by
  have same : ((fun n => if isSurrogate n then '\uFFFD' else Char.ofNat n) ∘ Char.toNat) = id := by
    funext c
    simp only [Function.comp, isSurrogate_toNat, Bool.false_eq_true, if_false, Char.ofNat_toNat, id]
  rw [toStringLossy, ofString, List.map_map, same, List.map_id, String.ofList_toList]

end Text

/-! ## Reading what has been made -/

namespace Memory

variable {m : Memory} {low : Nat} {r : Ref} {c : Builtin} {w : Value}

/-- No other value is encoded as nothing is. -/
theorem encodes_none_iff {t : HostType} {v : HostValue} (h : m.Encodes t low r v) :
    r = Ref.none ↔ v.encodesNone = true := by
  induction t generalizing r v with
  | int64 | int32 | float | text =>
    cases v with
    | _ => first | exact h.elim | exact iff_of_false (h.2.ne_none (by decide)) (by rintro ⟨⟩)
  | truth =>
    cases v with
    | truth b =>
      subst h
      exact iff_of_false (by rintro ⟨⟩) (by rintro ⟨⟩)
    | _ => cases h
  | unit =>
    cases v with
    | unit => exact iff_of_true h rfl
    | _ => cases h
  | handle => cases v <;> cases h
  | option t ih =>
    cases v with
    | none => exact iff_of_true h rfl
    | some v =>
      show r = Ref.none ↔ v.encodesNone = true
      exact ih h
    | _ => cases h
  | list t ih =>
    cases v with
    | list items =>
      obtain ⟨id, refs, rfl, -⟩ := h
      exact iff_of_false (by rintro ⟨⟩) (by rintro ⟨⟩)
    | _ => cases h

theorem length_run {refs : List Ref} (holds : m.Holds r .list (.list refs))
    (countable : (refs.length : Int) ≤ Eval.maxIndex) :
    (Eval.length Machine.top r).run m = (.ok (refs.length : Int), m) := by
  have native : m.special r "__len__" = some (.native .list) := holds.special "__len__"
  simp only [Eval.length, Eval.run_special_bind, native, Eval.run_valueOf_bind, holds.value,
    Eval.nativeLength, pure_bind]
  rw [if_neg (by omega), Eval.run_pure]

theorem sequenceItemAt_run {refs : List Ref} (holds : m.Holds r .list (.list refs)) {i : Nat}
    {item : Ref} (found : refs[i]? = some item) :
    (Eval.sequenceItemAt Machine.top r i).run m = (.ok item, m) := by
  have native : m.special r "__getitem__" = some (.native .list) := holds.special "__getitem__"
  simp only [Eval.sequenceItemAt, Eval.run_special_bind, native, Eval.run_valueOf_bind, holds.value,
    Eval.itemAt, Eval.nativeItem, Int.toNat_natCast, found]
  rw [if_neg (by omega), pure_bind, Eval.run_pure]

theorem items_reading {t : HostType} {refs others : List Ref} {items : List HostValue}
    (holds : m.Holds r .list (.list refs)) (each : List.Forall₂ (m.Encodes t low) others items)
    (accepted : ∀ {r v}, v ∈ items → m.Encodes t low r v → t.reading r m (.ok (t.readBack v)) m)
    {i : Nat} (rest : refs.drop i = others) :
    ItemsReading t.reading r i items.length m (.ok (items.map t.readBack)) m := by
  induction each generalizing i with
  | nil => exact .done
  | @cons item v others items encodes each ih =>
    have found : refs[i]? = some item := by
      rw [← List.head?_drop, rest, List.head?_cons]
    refine .cons (sequenceItemAt_run holds found) (accepted List.mem_cons_self encodes) (ih ?_ ?_)
    · exact fun hv => accepted (List.mem_cons_of_mem v hv)
    · rw [← List.tail_drop, rest, List.tail_cons]

theorem int64_reading {i : Int} (holds : m.Holds r .int (.int i)) (least : Eval.minIndex ≤ i)
    (greatest : i ≤ Eval.maxIndex) : Int64Reading r m (.ok (.int i)) m := by
  have integer : m.isInteger r = true := by
    rw [isInteger, holds.isKind, holds.isKind]
    rfl
  have value : m.integerOf r = i := by rw [integerOf, holds.value]
  have read := Int64Reading.accepted integer (value ▸ least) (value ▸ greatest)
  rw [value] at read
  exact read

/-- An object that encodes a value of a type is accepted by the type. -/
theorem Encodes.reading {t : HostType} {v : HostValue} (h : m.Encodes t low r v)
    (typed : t.Contains v) : t.reading r m (.ok (t.readBack v)) m := by
  induction t generalizing low r v with
  | int64 =>
    cases v with
    | int i => exact int64_reading h.2 typed.1 typed.2
    | _ => exact h.elim
  | int32 =>
    cases v with
    | int i =>
      have wide := int64_reading h.2 (Int.le_trans (by decide) typed.1)
        (Int.le_trans typed.2 (by decide))
      exact Int32Reading.accepted wide typed.1 typed.2
    | _ => exact h.elim
  | float =>
    cases v with
    | float x =>
      have float : m.isKind r .float = true := h.2.isKind .float
      have number : m.isNumber r = true := by rw [isNumber, float, Bool.true_or]
      exact FloatReading.accepted number (Eval.doubleOf_run float h.2.value)
    | _ => exact h.elim
  | truth =>
    cases v with
    | truth b => exact TruthReading.accepted h
    | _ => exact h.elim
  | text =>
    cases v with
    | text s =>
      have read := TextReading.accepted (h.2.isKind .str) h.2.value
        (Text.firstSurrogates_ofString s)
      rw [Text.toStringLossy_ofString] at read
      exact read
    | _ => exact h.elim
  | unit =>
    cases v with
    | unit => exact UnitReading.accepted h
    | _ => exact h.elim
  | handle => cases v <;> exact h.elim
  | option t ih =>
    cases v with
    | none => exact OptionReading.none h
    | some v =>
      have none : r = Ref.none ↔ v.encodesNone = true := encodes_none_iff h
      rw [HostType.readBack]
      split
      · next encodes => exact OptionReading.none (none.mpr encodes)
      · next encodes => exact OptionReading.some (fun hr => encodes (none.mp hr)) (ih h typed)
    | _ => exact h.elim
  | list t ih =>
    cases v with
    | list items =>
      obtain ⟨id, refs, rfl, -, holds, each⟩ := h
      obtain ⟨typed, room, countable⟩ := typed
      have same : refs.length = items.length := each.length_eq
      have sequence : m.isSequence (.cell id) = true := by
        rw [isSequence, holds.special]
        rfl
      have length := length_run holds (same ▸ countable)
      rw [same] at length
      refine ListReading.accepted sequence (holds.isKind .str) length room ?_
      exact items_reading holds each (fun hv encodes => ih encodes (typed _ hv)) List.drop_zero
    | _ => exact h.elim

end Memory

namespace Handle

/-- Every value of every type can be converted, and what is read of its object is the value again,
but for what the object does not tell. -/
theorem convert_then_extract (t : HostType) {v : HostValue} (typed : t.Contains v) {u : ThreadId}
    {h : Host} (alive : h.lock.alive = true) (clear : h.pending = Option.none) :
    (∃ x k i, v.toHandle.perform u h = (.ok x, k) ∧ x.disposed = false ∧
      (x.isNone = true ↔ v.encodesNone = true) ∧
      (x.extract t).perform u k = (.ok (t.readBack v), i)) ∧
    (t.readBack v = v ↔ t.Tells v) ∧ (t.isFaithful = true → t.Tells v) ∧
    ∀ s, t = .option s → (t.readBack v = .none ↔ v.encodesNone = true) := by
  refine ⟨?_, HostType.readBack_eq_iff, fun faithful => HostType.tells_of_isFaithful faithful typed,
    ?_⟩
  · obtain ⟨r, n, returns, -, encodes⟩ := HostValue.toHandle_converts typed h.memory
    obtain ⟨k, hk, kn⟩ := returns u h alive rfl
    have honest : Op.Honest translationDepth True v.toHandle := v.toHandle_honest
    have ends := honest.ends (t := u) (h := h) (fun _ => .inl alive) clear
    have alive' := Op.alive_perform v.toHandle u alive
    rw [hk] at ends alive'
    have clear' : k.pending = Option.none := by
      cases ends with
      | returned clear' _ => exact clear'
    have comes :=
      (extract_behaves t (x := adopt r) rfl).comes (t := u) (h := k) (.inl alive') clear'
    subst kn
    obtain ⟨same, -⟩ := t.reading_definite (encodes.reading typed) comes
    refine ⟨adopt r, k, ((adopt r).extract t).perform u k |>.2, hk, rfl, ?_, Prod.ext same rfl⟩
    rw [isNone, beq_iff_eq]
    exact Memory.encodes_none_iff encodes
  · rintro s rfl
    exact HostType.readBack_option_eq_none_iff typed

theorem minus_one_and_nothing_round_trip :
    (HostType.list (.option .int64)).Contains (.list [.some (.int (-1)), .none]) ∧
    ∃ x k i,
      (HostValue.list [.some (.int (-1)), .none]).toHandle.perform 0 Host.fresh = (.ok x, k) ∧
      x.disposed = false ∧ (x.extract (.list (.option .int64))).perform 0 k =
        (.ok (.list [.some (.int (-1)), .none]), i) := by
  have one : (HostType.option .int64).Contains (.some (.int (-1))) := ⟨by decide, by decide⟩
  have typed : (HostType.list (.option .int64)).Contains (.list [.some (.int (-1)), .none]) := by
    refine ⟨fun v hv => ?_, by decide, by decide⟩
    obtain rfl | hv := List.mem_cons.mp hv
    · exact one
    · obtain rfl := List.mem_singleton.mp hv
      trivial
  obtain ⟨⟨x, k, i, made, live, -, read⟩, -⟩ :=
    convert_then_extract (.list (.option .int64)) typed (u := 0) (h := Host.fresh) rfl rfl
  exact ⟨typed, x, k, i, made, live, read⟩

/-- An option that holds the unit is read back as an empty one. -/
example : (HostType.option .unit).readBack (.some .unit) = .none := rfl

end Handle

end EmbeddedPython
