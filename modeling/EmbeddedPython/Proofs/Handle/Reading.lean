import EmbeddedPython.Proofs.Host.Behavior

/-
  What a type makes of an object

  The types of the host accept objects by their class, and no object passes for
  another: a truth value is no integer and a text is no sequence. A reading says
  which value a type accepts an object as, or with which failure it refuses it,
  and which memory is left. Sequences are asked for their length and then for
  one item after the other, by code of the program if their class has any.
-/

namespace EmbeddedPython

/-- What comes of reading an object. -/
abbrev Reading (α : Type) := Ref → Behavior α

namespace Memory

/-- Whether an object is an integer and no truth value. -/
def isInteger (m : Memory) (r : Ref) : Bool := m.isKind r .int && !m.isKind r .bool

/-- Whether an object is a float or an integer. -/
def isNumber (m : Memory) (r : Ref) : Bool := m.isKind r .float || m.isInteger r

/-- The integer that an object stands for. -/
def integerOf (m : Memory) (r : Ref) : Int :=
  match m.valueOf r with
  | .int n => n
  | _ => 0

/-- Whether an object answers to indices: its class has items, and it is no dictionary. A class
with parameters has none. -/
def isSequence (m : Memory) (r : Ref) : Bool :=
  match m.special r "__getitem__" with
  | some (.member _) => !m.isKind r .dict
  | some (.native owner) => owner != .dict && owner != .alias
  | none => false

end Memory

namespace Eval

/-- The name of the type of an object, as the host reads it. -/
def hostKind (m : Machine) (r : Ref) : Eval String := do hostTypeName m ((← memory).classOf r)

end Eval

/-- How an object is refused that is of another type: by the name of its type, or a placeholder if
that cannot be read. -/
inductive Misfit (expected : String) (r : Ref) (m : Memory) : Failure → Memory → Prop
  | named {actual : String} {n : Memory}
      (tells : (Eval.hostKind Machine.top r).Tells unknownType m actual n) :
      Misfit expected r m (.error (.conversion expected actual)) n
  | untold {n : Memory} : Misfit expected r m .overflow n

/-- Integers of 64 bits. -/
inductive Int64Reading (r : Ref) (m : Memory) : Except Failure HostValue → Memory → Prop
  | accepted (integer : m.isInteger r = true) (least : Eval.minIndex ≤ m.integerOf r)
      (greatest : m.integerOf r ≤ Eval.maxIndex) : Int64Reading r m (.ok (.int (m.integerOf r))) m
  | tooBig {f : Failure} {n : Memory} (integer : m.isInteger r = true)
      (beyond : m.integerOf r < Eval.minIndex ∨ Eval.maxIndex < m.integerOf r)
      (fails : (Eval.raise .overflowError "int too big to convert" : Eval Int).Fails m f n) :
      Int64Reading r m (.error f) n
  | refused {f : Failure} {n : Memory} (other : m.isInteger r = false)
      (misfit : Misfit "int" r m f n) :
      Int64Reading r m (.error f) n

/-- Integers of 32 bits: those of 64 bits that fit. -/
inductive Int32Reading (r : Ref) (m : Memory) : Except Failure HostValue → Memory → Prop
  | accepted {i : Int} {n : Memory} (wide : Int64Reading r m (.ok (.int i)) n)
      (least : -2147483648 ≤ i) (greatest : i ≤ 2147483647) : Int32Reading r m (.ok (.int i)) n
  | tooBig {i : Int} {n : Memory} (wide : Int64Reading r m (.ok (.int i)) n)
      (beyond : i < -2147483648 ∨ 2147483647 < i) :
      Int32Reading r m (.error (.error (.conversion "i32" ("int " ++ toString i)))) n
  | failed {f : Failure} {n : Memory} (wide : Int64Reading r m (.error f) n) :
      Int32Reading r m (.error f) n

/-- Floats, and integers as the interpreter makes floats of them. -/
inductive FloatReading (r : Ref) (m : Memory) : Except Failure HostValue → Memory → Prop
  | accepted {x : Float} {n : Memory} (number : m.isNumber r = true)
      (run : (Eval.doubleOf Machine.top r).run m = (.ok x, n)) : FloatReading r m (.ok (.float x)) n
  | raised {f : Failure} {n : Memory} (number : m.isNumber r = true)
      (fails : (Eval.doubleOf Machine.top r).Fails m f n) : FloatReading r m (.error f) n
  | refused {f : Failure} {n : Memory} (other : m.isNumber r = false)
      (misfit : Misfit "float" r m f n) : FloatReading r m (.error f) n

/-- True and False. If their class had other instances, these would be asked for their truth. -/
inductive TruthReading (r : Ref) (m : Memory) : Except Failure HostValue → Memory → Prop
  | accepted {b : Bool} (singleton : r = Ref.ofBool b) : TruthReading r m (.ok (.truth b)) m
  | asked {result : Except Failure HostValue} {n : Memory} (other : r.isImmortal = false)
      (truth : m.isKind r .bool = true)
      (comes : (Eval.truth Machine.top r).Comes HostValue.truth m result n) :
      TruthReading r m result n
  | refused {f : Failure} {n : Memory} (other : m.isKind r .bool = false)
      (misfit : Misfit "bool" r m f n) : TruthReading r m (.error f) n

/-- Texts without lone surrogates. -/
inductive TextReading (r : Ref) (m : Memory) : Except Failure HostValue → Memory → Prop
  | accepted {t : Text} (text : m.isKind r .str = true) (value : m.valueOf r = .text t)
      (plain : t.firstSurrogates = none) : TextReading r m (.ok (.text t.toStringLossy)) m
  | raised {f : Failure} {n : Memory} (text : m.isKind r .str = true)
      (fails : (Eval.utf8Of r).Fails m f n) : TextReading r m (.error f) n
  | refused {f : Failure} {n : Memory} (other : m.isKind r .str = false)
      (misfit : Misfit "str" r m f n) : TextReading r m (.error f) n

/-- Nothing. -/
inductive UnitReading (r : Ref) (m : Memory) : Except Failure HostValue → Memory → Prop
  | accepted (none : r = Ref.none) : UnitReading r m (.ok .unit) m
  | refused {f : Failure} {n : Memory} (other : r ≠ Ref.none) (misfit : Misfit "None" r m f n) :
      UnitReading r m (.error f) n

/-- Any object. -/
inductive HandleReading (r : Ref) (m : Memory) : Except Failure HostValue → Memory → Prop
  | accepted : HandleReading r m (.ok (.handle (Handle.adopt r))) m

/-- Nothing, or what a type accepts. -/
inductive OptionReading (inner : Reading HostValue) (r : Ref) (m : Memory) :
    Except Failure HostValue → Memory → Prop
  | none (none : r = Ref.none) : OptionReading inner r m (.ok .none) m
  | some {v : HostValue} {n : Memory} (other : r ≠ Ref.none) (accepted : inner r m (.ok v) n) :
      OptionReading inner r m (.ok (.some v)) n
  | failed {f : Failure} {n : Memory} (other : r ≠ Ref.none) (failed : inner r m (.error f) n) :
      OptionReading inner r m (.error f) n

/-- So many items from an index on, each by a type. The first one that cannot be had or is not
accepted ends the reading. -/
inductive ItemsReading (inner : Reading HostValue) (r : Ref) : Nat → Nat → Memory →
    Except Failure (List HostValue) → Memory → Prop
  | done {i : Nat} {m : Memory} : ItemsReading inner r i 0 m (.ok []) m
  | missing {i left : Nat} {m n : Memory} {f : Failure}
      (fails : (Eval.sequenceItemAt Machine.top r i).Fails m f n) :
      ItemsReading inner r i (left + 1) m (.error f) n
  | failed {i left : Nat} {m k n : Memory} {item : Ref} {f : Failure}
      (run : (Eval.sequenceItemAt Machine.top r i).run m = (.ok item, k))
      (failed : inner item k (.error f) n) : ItemsReading inner r i (left + 1) m (.error f) n
  | next {i left : Nat} {m k j n : Memory} {item : Ref} {v : HostValue}
      {rest : Except Failure (List HostValue)}
      (run : (Eval.sequenceItemAt Machine.top r i).run m = (.ok item, k))
      (accepted : inner item k (.ok v) j) (others : ItemsReading inner r (i + 1) left j rest n) :
      ItemsReading inner r i (left + 1) m (rest.map (v :: ·)) n

/-- Sequences that are no texts, item by item. There must be room for so many items of a width. -/
inductive ListReading (width : Nat) (inner : Reading HostValue) (r : Ref) (m : Memory) :
    Except Failure HostValue → Memory → Prop
  | refused {f : Failure} {n : Memory} (other : m.isSequence r = false ∨ m.isKind r .str = true)
      (misfit : Misfit "sequence" r m f n) : ListReading width inner r m (.error f) n
  | endless {f : Failure} {n : Memory} (sequence : m.isSequence r = true)
      (noText : m.isKind r .str = false) (fails : (Eval.length Machine.top r).Fails m f n) :
      ListReading width inner r m (.error f) n
  | tooLong {count : Int} {n : Memory} (sequence : m.isSequence r = true)
      (noText : m.isKind r .str = false)
      (length : (Eval.length Machine.top r).run m = (.ok count, n))
      (beyond : HostType.greatestSize < count.toNat * width) :
      ListReading width inner r m (.error (.panic "capacity overflow")) n
  | items {count : Int} {k n : Memory} {vs : Except Failure (List HostValue)}
      (sequence : m.isSequence r = true) (noText : m.isKind r .str = false)
      (length : (Eval.length Machine.top r).run m = (.ok count, k))
      (room : count.toNat * width ≤ HostType.greatestSize)
      (items : ItemsReading inner r 0 count.toNat k vs n) :
      ListReading width inner r m (vs.map .list) n

/-- An item that is accepted, before others that are. -/
theorem ItemsReading.cons {inner : Reading HostValue} {r item : Ref} {i left : Nat}
    {m k j n : Memory} {v : HostValue} {vs : List HostValue}
    (run : (Eval.sequenceItemAt Machine.top r i).run m = (.ok item, k))
    (accepted : inner item k (.ok v) j) (others : ItemsReading inner r (i + 1) left j (.ok vs) n) :
    ItemsReading inner r i (left + 1) m (.ok (v :: vs)) n :=
  .next run accepted others

/-- A sequence of which every item is accepted. -/
theorem ListReading.accepted {width : Nat} {inner : Reading HostValue} {r : Ref} {m k n : Memory}
    {count : Nat} {vs : List HostValue} (sequence : m.isSequence r = true)
    (noText : m.isKind r .str = false)
    (length : (Eval.length Machine.top r).run m = (.ok (count : Int), k))
    (room : count * width ≤ HostType.greatestSize)
    (items : ItemsReading inner r 0 count k (.ok vs) n) :
    ListReading width inner r m (.ok (.list vs)) n :=
  .items sequence noText length room items

/-- What a type makes of an object. -/
def HostType.reading : HostType → Reading HostValue
  | int64 => Int64Reading
  | int32 => Int32Reading
  | float => FloatReading
  | truth => TruthReading
  | text => TextReading
  | unit => UnitReading
  | handle => HandleReading
  | option t => OptionReading t.reading
  | list t => ListReading t.width t.reading

/-! ## What the interpreter makes of an object -/

namespace Eval

variable {α β : Type} {r : Ref} {m : Memory}

/-- What is no integer stands for zero. -/
theorem int64Of_eq (m : Memory) (r : Ref) :
    (int64Of r).run m = (if m.integerOf r < minIndex ∨ maxIndex < m.integerOf r then
      raise .overflowError "int too big to convert"
      else pure (m.integerOf r) : Eval Int).run m := by
  simp only [int64Of, valueOf, bind_assoc, pure_bind, run_memory_bind]
  split
  · next n held =>
    have value : m.integerOf r = n := by rw [Memory.integerOf, held]
    rw [value]
  · next other =>
    have value : m.integerOf r = 0 := by
      rw [Memory.integerOf]
      split
      · next n held => exact absurd held (other n)
      · rfl
    rw [value]
    rfl

theorem int64Of_within (least : minIndex ≤ m.integerOf r) (greatest : m.integerOf r ≤ maxIndex) :
    (int64Of r).run m = (.ok (m.integerOf r), m) := by
  rw [int64Of_eq, if_neg (by omega), run_pure]

theorem int64Of_beyond (beyond : m.integerOf r < minIndex ∨ maxIndex < m.integerOf r) :
    (int64Of r).run m = (raise .overflowError "int too big to convert" : Eval Int).run m := by
  rw [int64Of_eq, if_pos beyond]

/-- Whether an evaluation raises in any memory. -/
def Raising (f : Eval α) : Prop := ∀ m : Memory, ∃ e, (f.run m).1 = .error e

theorem Raising.throw (e : Ref) : Raising (throw e : Eval α) := fun _ => ⟨e, rfl⟩

theorem Raising.bind (f : Eval β) {g : β → Eval α} (hg : ∀ b, Raising (g b)) :
    Raising (f >>= g) := by
  intro m
  rw [run_bind]
  rcases f.run m with ⟨e | b, n⟩
  · exact ⟨e, rfl⟩
  · exact hg b n

theorem Raising.raise (c : ExceptionClass) (text : Text) : Raising (raise c text : Eval α) :=
  .bind _ fun _ => .bind _ fun e => .throw e

theorem Raising.not_returned {f : Eval α} (hf : Raising f) {a : α} {n : Memory} :
    f.run m ≠ (.ok a, n) := by
  intro run
  obtain ⟨e, he⟩ := hf m
  rw [run] at he
  cases he

theorem utf8Bytes_raising {t : Text} {start count : Nat}
    (lone : t.firstSurrogates = some (start, count)) : Raising (utf8Bytes t) := by
  rw [utf8Bytes, lone]
  exact .bind _ fun _ => .bind _ fun _ => .bind _ fun _ => .bind _ fun _ => .bind _ fun _ =>
    .bind _ fun e => .throw e

/-- An integer is widened to the double nearest to it, if no class says otherwise. -/
theorem doubleOf_integer {mach : Machine} {owner : Builtin} {i : Int}
    (float : m.isKind r .float = false) (value : m.valueOf r = .int i)
    (native : m.special r "__float__" = some (.native owner)) :
    (doubleOf mach r).run m = (floatOfInt i).run m := by
  simp only [doubleOf, realNumber, realNumber?, isKind, special, valueOf, bind_assoc, pure_bind,
    run_memory_bind, float, value, native, bind_pure]

theorem floatOfInt_raising {i : Int} (tooLarge : Binary64.ofInt? i = none) :
    Raising (floatOfInt i) := by
  rw [floatOfInt, tooLarge]
  exact .raise _ _

/-- A text is had without lone surrogates only. -/
theorem utf8Of_returned {s : String} {n : Memory} (run : (utf8Of r).run m = (.ok s, n)) :
    ∃ t, m.valueOf r = .text t ∧ t.firstSurrogates = none ∧ s = t.toStringLossy ∧ n = m := by
  simp only [utf8Of, valueOf, bind_assoc, pure_bind, run_memory_bind] at run
  split at run
  · next t held =>
    cases surrogates : t.firstSurrogates with
    | none =>
      simp only [utf8Bytes, surrogates, pure_bind, run_pure] at run
      cases run
      exact ⟨t, held, surrogates, rfl, rfl⟩
    | some lone =>
      rw [run_bind] at run
      split at run
      · next bytes => exact absurd bytes (utf8Bytes_raising surrogates).not_returned
      · cases run
  · cases run

theorem utf8Of_run {t : Text} (value : m.valueOf r = .text t) (plain : t.firstSurrogates = none) :
    (utf8Of r).run m = (.ok t.toStringLossy, m) := by
  simp only [utf8Of, valueOf, bind_assoc, pure_bind, run_memory_bind, value, utf8Bytes, plain,
    run_pure]

theorem isSequence_run (r : Ref) (m : Memory) :
    (isSequence r).run m = (.ok (m.isSequence r), m) := by
  simp only [isSequence, special, isKind, bind_assoc, pure_bind, run_memory_bind, Memory.isSequence]
  cases m.special r "__getitem__" with
  | none => rfl
  | some found =>
    cases found with
    | member _ => rfl
    | native _ => rfl

theorem lengthFrom_nonneg {mach : Machine} {f : Ref} {count : Int} {n : Memory}
    (run : (lengthFrom mach f r).run m = (.ok count, n)) : 0 ≤ count := by
  rw [lengthFrom, run_bind] at run
  split at run
  · next result k _ =>
    rw [run_bind] at run
    split at run
    · next i j _ =>
      split at run
      · exact absurd run (Raising.raise _ _).not_returned
      · next least =>
        split at run
        · exact absurd run (Raising.raise _ _).not_returned
        · cases run
          omega
    · cases run
  · cases run

/-- No length is negative. -/
theorem length_nonneg {mach : Machine} {count : Int} {n : Memory}
    (run : (length mach r).run m = (.ok count, n)) : 0 ≤ count := by
  simp only [length, special, valueOf, bind_assoc, pure_bind, run_memory_bind] at run
  split at run
  · exact lengthFrom_nonneg run
  · rw [run_memory_bind, run_bind] at run
    split at run
    · split at run
      · split at run
        · cases run
        · cases run
          exact Int.natCast_nonneg _
      · cases run
        decide
    · cases run
  · exact absurd run (Raising.bind _ fun _ => .raise _ _).not_returned

end Eval

/-! ## An object is accepted in one way -/

/-- An object is accepted in one way, and what is accepted is not refused. -/
def Reading.Definite (reading : Reading α) : Prop :=
  ∀ {r : Ref} {m k n : Memory} {a : α} {res : Except Failure α},
    reading r m (.ok a) k → reading r m res n → res = .ok a ∧ n = k

namespace Reading

theorem int64_definite : Definite Int64Reading := by
  intro r m k n a res h h'
  cases h with
  | accepted integer least greatest =>
    cases h' with
    | accepted _ _ _ => exact ⟨rfl, rfl⟩
    | tooBig _ beyond _ => omega
    | refused other _ => cases integer.symm.trans other

theorem int32_definite : Definite Int32Reading := by
  intro r m k n a res h h'
  cases h with
  | accepted wide least greatest =>
    cases h' with
    | accepted wide' _ _ =>
      obtain ⟨same, rfl⟩ := int64_definite wide wide'
      cases same
      exact ⟨rfl, rfl⟩
    | tooBig wide' beyond =>
      cases (int64_definite wide wide').1
      omega
    | failed wide' => cases (int64_definite wide wide').1

theorem float_definite : Definite FloatReading := by
  intro r m k n a res h h'
  cases h with
  | accepted number run =>
    cases h' with
    | accepted _ run' =>
      cases run.symm.trans run'
      exact ⟨rfl, rfl⟩
    | raised _ fails =>
      obtain ⟨_, _, run'⟩ := fails.raises
      cases run.symm.trans run'
    | refused other _ => cases number.symm.trans other

theorem isKind_ofBool (b : Bool) (m : Memory) : m.isKind (Ref.ofBool b) .bool = true := rfl

theorem truth_definite : Definite TruthReading := by
  intro r m k n a res h h'
  cases h with
  | accepted singleton =>
    subst singleton
    cases h' with
    | accepted singleton' =>
      cases singleton'
      exact ⟨rfl, rfl⟩
    | asked other _ _ => cases other
    | refused other _ => cases (isKind_ofBool _ m).symm.trans other
  | asked other truth comes =>
    cases h' with
    | accepted singleton =>
      subst singleton
      cases other
    | asked _ _ comes' =>
      cases comes with
      | returned run =>
        cases comes' with
        | returned run' =>
          cases run.symm.trans run'
          exact ⟨rfl, rfl⟩
        | failed fails =>
          obtain ⟨_, _, run'⟩ := fails.raises
          cases run.symm.trans run'
    | refused other _ => cases truth.symm.trans other

theorem text_definite : Definite TextReading := by
  intro r m k n a res h h'
  cases h with
  | accepted text value plain =>
    cases h' with
    | accepted _ value' _ =>
      cases value.symm.trans value'
      exact ⟨rfl, rfl⟩
    | raised _ fails =>
      obtain ⟨x, j, run⟩ := fails.raises
      rw [Eval.utf8Of_run value plain] at run
      cases run
    | refused other _ => cases text.symm.trans other

theorem unit_definite : Definite UnitReading := by
  intro r m k n a res h h'
  cases h with
  | accepted none =>
    cases h' with
    | accepted _ => exact ⟨rfl, rfl⟩
    | refused other _ => exact absurd none other

theorem handle_definite : Definite HandleReading := by
  intro r m k n a res h h'
  cases h
  cases h'
  exact ⟨rfl, rfl⟩

theorem option_definite {inner : Reading HostValue} (hi : inner.Definite) :
    Definite (OptionReading inner) := by
  intro r m k n a res h h'
  cases h with
  | none none =>
    cases h' with
    | none _ => exact ⟨rfl, rfl⟩
    | some other _ => exact absurd none other
    | failed other _ => exact absurd none other
  | some other accepted =>
    cases h' with
    | none none => exact absurd none other
    | some _ accepted' =>
      obtain ⟨same, rfl⟩ := hi accepted accepted'
      cases same
      exact ⟨rfl, rfl⟩
    | failed _ failed => cases (hi accepted failed).1

theorem items_definite {inner : Reading HostValue} (hi : inner.Definite) {r : Ref} {i left : Nat}
    {m k n : Memory} {vs : List HostValue} {first res : Except Failure (List HostValue)}
    (h : ItemsReading inner r i left m first k) (accepted : first = .ok vs)
    (h' : ItemsReading inner r i left m res n) : res = .ok vs ∧ n = k := by
  induction h generalizing vs res n with
  | done =>
    cases accepted
    cases h'
    exact ⟨rfl, rfl⟩
  | missing _ => cases accepted
  | failed _ _ => cases accepted
  | @next i left m k j n item v rest run item_accepted others ih =>
    cases rest with
    | error f => cases accepted
    | ok vs =>
      cases accepted
      cases h' with
      | missing fails =>
        obtain ⟨_, _, run'⟩ := fails.raises
        cases run.symm.trans run'
      | failed run' failed =>
        cases run.symm.trans run'
        cases (hi item_accepted failed).1
      | next run' item_accepted' others' =>
        cases run.symm.trans run'
        obtain ⟨same, rfl⟩ := hi item_accepted item_accepted'
        cases same
        obtain ⟨rfl, rfl⟩ := ih rfl others'
        exact ⟨rfl, rfl⟩

theorem list_definite (width : Nat) {inner : Reading HostValue} (hi : inner.Definite) :
    Definite (ListReading width inner) := by
  intro r m k n a res h h'
  generalize accepted : Except.ok a = first at h
  cases h with
  | refused _ _ => cases accepted
  | endless _ _ _ => cases accepted
  | tooLong _ _ _ _ => cases accepted
  | @items count j _ vs sequence noText length room items =>
    cases vs with
    | error f => cases accepted
    | ok vs =>
      cases accepted
      cases h' with
      | refused other _ =>
        rcases other with other | other
        · cases sequence.symm.trans other
        · cases noText.symm.trans other
      | endless _ _ fails =>
        obtain ⟨_, _, length'⟩ := fails.raises
        cases length.symm.trans length'
      | tooLong _ _ length' beyond =>
        cases length.symm.trans length'
        omega
      | items _ _ length' _ items' =>
        cases length.symm.trans length'
        obtain ⟨rfl, rfl⟩ := items_definite hi items rfl items'
        exact ⟨rfl, rfl⟩

end Reading

theorem HostType.reading_definite (t : HostType) : t.reading.Definite := by
  induction t with
  | int64 => exact Reading.int64_definite
  | int32 => exact Reading.int32_definite
  | float => exact Reading.float_definite
  | truth => exact Reading.truth_definite
  | text => exact Reading.text_definite
  | unit => exact Reading.unit_definite
  | handle => exact Reading.handle_definite
  | option t ih => exact Reading.option_definite ih
  | list t ih => exact Reading.list_definite t.width ih

end EmbeddedPython
