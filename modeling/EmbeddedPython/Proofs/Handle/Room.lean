import EmbeddedPython.Proofs.Handle.Extraction

/-
  Room for what is read

  Before a list is read there is made room for as many items as the object says
  that it has, and the object is asked for none of them until then. What the
  object says is not checked, so there can be more items than room for them. That
  is the only way in which an extraction panics: in the list that is asked for,
  or in a list among its items once those before it have been accepted.

  An object that says it has more items than it has ends the reading with the
  error of the first one that is missing.
-/

namespace EmbeddedPython

open Op (translationDepth)

/-! ## Items up to an index -/

namespace ItemsReading

variable {inner : Reading HostValue} {r : Ref} {i left count : Nat} {m j n : Memory}
  {vs : List HostValue} {whole : Except Failure (List HostValue)}

/-- What is read of the items after those that were accepted ends the reading of all of them. -/
theorem after (definite : inner.Definite) (read : ItemsReading inner r i left m (.ok vs) j)
    (all : ItemsReading inner r i (left + count) m whole n) :
    ∃ rest, ItemsReading inner r (i + left) count j rest n ∧ whole = rest.map (vs ++ ·) := by
  generalize accepted : Except.ok vs = first at read
  induction read generalizing vs whole n with
  | done =>
    cases accepted
    rw [Nat.zero_add] at all
    exact ⟨whole, all, by cases whole <;> rfl⟩
  | missing _ => cases accepted
  | failed _ _ => cases accepted
  | @next i left m k j n' item v rest run item_accepted others ih =>
    cases rest with
    | error f => cases accepted
    | ok ws =>
      cases accepted
      rw [Nat.succ_add] at all
      cases all with
      | missing fails =>
        obtain ⟨_, _, run'⟩ := fails.raises
        cases run.symm.trans run'
      | failed run' failed =>
        cases run.symm.trans run'
        cases (definite item_accepted failed).1
      | @next _ _ _ _ _ _ _ _ tail run' item_accepted' others' =>
        cases run.symm.trans run'
        obtain ⟨same, rfl⟩ := definite item_accepted item_accepted'
        cases same
        obtain ⟨rest, items, rfl⟩ := ih others' rfl
        refine ⟨rest, ?_, by cases rest <;> rfl⟩
        rwa [show i + (left + 1) = i + 1 + left by omega]

/-- A panic is that of one item, after others that were accepted. -/
theorem of_panic {text : String} (all : ItemsReading inner r i count m (.error (.panic text)) n) :
    ∃ left vs j item k, left < count ∧ ItemsReading inner r i left m (.ok vs) j ∧
      (Eval.sequenceItemAt Machine.top r (i + left)).run j = (.ok item, k) ∧
      inner item k (.error (.panic text)) n := by
  generalize panicked : Except.error (Failure.panic text) = whole at all
  induction all with
  | done => cases panicked
  | missing fails =>
    cases panicked
    cases fails
  | @failed i left m k n item f run failed =>
    cases panicked
    exact ⟨0, [], m, item, k, Nat.zero_lt_succ left, .done, run, failed⟩
  | @next i left m k j n item v rest run accepted others ih =>
    cases rest with
    | ok vs => cases panicked
    | error f =>
      cases panicked
      obtain ⟨before, vs, j', item', k', fits, read, run', failed⟩ := ih rfl
      refine ⟨before + 1, v :: vs, j', item', k', by omega, .cons run accepted read, ?_, failed⟩
      rwa [show i + (before + 1) = i + 1 + before by omega]

end ItemsReading

/-! ## Whether there is room -/

namespace HostType

/-- Whether an object is a sequence of so many items by its own account, with the memory after it
has been asked. -/
structure Measures (r : Ref) (m : Memory) (count : Nat) (k : Memory) : Prop where
  sequence : m.isSequence r = true
  noText : m.isKind r .str = false
  length : (Eval.length Machine.top r).run m = (.ok (count : Int), k)

/-- Whether an object of which a value is read asks for more room than there can be. -/
inductive Overfull : HostType → Ref → Memory → Prop
  /-- there is something -/
  | some {t : HostType} {r : Ref} {m : Memory} (other : r ≠ Ref.none) (inner : Overfull t r m) :
      Overfull (.option t) r m
  /-- so many items do not fit -/
  | list {t : HostType} {r : Ref} {m k : Memory} {count : Nat} (measures : Measures r m count k)
      (beyond : greatestSize < count * t.width) : Overfull (.list t) r m
  /-- the items fit, and one of them asks for too much when it is its turn -/
  | item {t : HostType} {r item : Ref} {m k j n : Memory} {count i : Nat} {vs : List HostValue}
      (measures : Measures r m count k) (room : count * t.width ≤ greatestSize) (among : i < count)
      (before : ItemsReading t.reading r 0 i k (.ok vs) j)
      (run : (Eval.sequenceItemAt Machine.top r i).run j = (.ok item, n))
      (inner : Overfull t item n) : Overfull (.list t) r m

/-- Whether an object has fewer items than it says: those before an index are accepted, and at that
index there is none. Also the memory in which the item is asked for. -/
inductive Short (t : HostType) (r : Ref) (i : Nat) (m j : Memory) : Prop
  | missing {k n : Memory} {count : Nat} {vs : List HostValue} {e : Ref}
      (measures : Measures r m count k) (room : count * t.width ≤ greatestSize) (among : i < count)
      (before : ItemsReading t.reading r 0 i k (.ok vs) j)
      (raises : (Eval.sequenceItemAt Machine.top r i).run j = (.error e, n)) : Short t r i m j

variable {t : HostType} {r : Ref} {i count : Nat} {m j k n : Memory}
  {res : Except Failure HostValue}

theorem not_panic_of_misfit {expected text : String} : ¬ Misfit expected r m (.panic text) n := by
  rintro ⟨⟩

/-- What comes of a sequence is decided by whether so many items fit. -/
theorem Measures.reading (measures : Measures r m count k) (read : (list t).reading r m res n) :
    greatestSize < count * t.width ∧ res = .error (.panic "capacity overflow") ∨
      count * t.width ≤ greatestSize ∧
        ∃ vs, ItemsReading t.reading r 0 count k vs n ∧ res = vs.map .list := by
  cases read with
  | refused other _ =>
    rcases other with other | other
    · cases measures.sequence.symm.trans other
    · cases measures.noText.symm.trans other
  | endless _ _ fails =>
    obtain ⟨_, _, run⟩ := fails.raises
    cases measures.length.symm.trans run
  | tooLong _ _ length beyond =>
    cases measures.length.symm.trans length
    exact .inl ⟨beyond, rfl⟩
  | items _ _ length room items =>
    cases measures.length.symm.trans length
    exact .inr ⟨room, _, items, rfl⟩

/-- What is read of a sequence that there is room for, from an index on. -/
theorem Measures.reading_from (measures : Measures r m count k)
    (room : count * t.width ≤ greatestSize) (among : i < count) {vs : List HostValue}
    (before : ItemsReading t.reading r 0 i k (.ok vs) j) (read : (list t).reading r m res n) :
    ∃ rest, ItemsReading t.reading r i (count - i - 1 + 1) j rest n ∧
      res = rest.map fun ws => .list (vs ++ ws) := by
  rcases measures.reading read with ⟨beyond, -⟩ | ⟨-, all, items, rfl⟩
  · omega
  · rw [show count = i + (count - i - 1 + 1) by omega] at items
    obtain ⟨rest, last, rfl⟩ := before.after t.reading_definite items
    rw [Nat.zero_add] at last
    exact ⟨rest, last, by cases rest <;> rfl⟩

/-- Where there is no room the reading panics, and does nothing else. -/
theorem Overfull.panics (overfull : t.Overfull r m) (read : t.reading r m res n) :
    res = .error (.panic "capacity overflow") := by
  induction overfull generalizing res n with
  | some other _ ih =>
    cases read with
    | none none => exact absurd none other
    | some _ accepted => cases ih accepted
    | failed _ failed => exact ih failed
  | list measures beyond =>
    rcases measures.reading read with ⟨-, panicked⟩ | ⟨room, -⟩
    · exact panicked
    · omega
  | item measures room among before run _ ih =>
    obtain ⟨rest, items, rfl⟩ := measures.reading_from room among before read
    cases items with
    | missing fails =>
      obtain ⟨_, _, run'⟩ := fails.raises
      cases run.symm.trans run'
    | failed run' failed =>
      cases run.symm.trans run'
      cases ih failed
      rfl
    | next run' accepted _ =>
      cases run.symm.trans run'
      cases ih accepted

/-- A reading panics for want of room only. -/
theorem Overfull.of_panic {text : String} (read : t.reading r m (.error (.panic text)) n) :
    t.Overfull r m := by
  induction t generalizing r m n with
  | int64 =>
    cases read with
    | tooBig _ _ fails => cases fails
    | refused _ misfit => exact absurd misfit not_panic_of_misfit
  | int32 =>
    cases read with
    | failed wide =>
      cases wide with
      | tooBig _ _ fails => cases fails
      | refused _ misfit => exact absurd misfit not_panic_of_misfit
  | float =>
    cases read with
    | raised _ fails => cases fails
    | refused _ misfit => exact absurd misfit not_panic_of_misfit
  | truth =>
    cases read with
    | asked _ _ comes =>
      cases comes with
      | failed fails => cases fails
    | refused _ misfit => exact absurd misfit not_panic_of_misfit
  | text =>
    cases read with
    | raised _ fails => cases fails
    | refused _ misfit => exact absurd misfit not_panic_of_misfit
  | unit =>
    cases read with
    | refused _ misfit => exact absurd misfit not_panic_of_misfit
  | handle => cases read
  | option t ih =>
    cases read with
    | failed other failed => exact .some other (ih failed)
  | list t ih =>
    generalize panicked : Except.error (Failure.panic text) = res at read
    cases read with
    | refused _ misfit =>
      cases panicked
      exact absurd misfit not_panic_of_misfit
    | endless _ _ fails =>
      cases panicked
      cases fails
    | @tooLong count k sequence noText length beyond =>
      rw [← Int.toNat_of_nonneg (Eval.length_nonneg length)] at length
      exact .list ⟨sequence, noText, length⟩ beyond
    | @items count k _ vs sequence noText length room items =>
      cases vs with
      | ok vs => cases panicked
      | error f =>
        cases panicked
        rw [← Int.toNat_of_nonneg (Eval.length_nonneg length)] at length
        obtain ⟨i, vs, j, item, n', among, before, run, failed⟩ := items.of_panic
        rw [Nat.zero_add] at run
        exact .item ⟨sequence, noText, length⟩ room among before run (ih failed)

/-- The first missing item ends the reading with the exception that was raised for it. -/
theorem Short.fails (short : t.Short r i m j) (read : (list t).reading r m res n) :
    ∃ f, res = .error f ∧ (Eval.sequenceItemAt Machine.top r i).Fails j f n := by
  obtain ⟨measures, room, among, before, raises⟩ := short
  obtain ⟨rest, items, rfl⟩ := measures.reading_from room among before read
  cases items with
  | missing fails => exact ⟨_, rfl, fails⟩
  | failed run => cases raises.symm.trans run
  | next run => cases raises.symm.trans run

end HostType

/-! ## Extraction -/

namespace Handle

/-- An extraction panics exactly where it needs more room than there can be. Everywhere else a value
or an error is returned; the stack is used up only by exceptions that are raised in telling others.
An object that has fewer items than it says is refused with the error of the first that is
missing. -/
theorem extract_panics_iff_overfull (t : HostType) {x : Handle} {u : ThreadId} {h : Host}
    (live : x.disposed = false) (admits : h.Admits u) (clear : h.pending = Option.none) :
    ((∃ text k, (x.extract t).perform u h = (.error (.panic text), k)) ↔
      t.Overfull x.ref h.memory) ∧
    (¬ t.Overfull x.ref h.memory → ∃ k,
      (∃ v, (x.extract t).perform u h = (.ok v, k)) ∨
      (∃ e, (x.extract t).perform u h = (.error (.error e), k)) ∨
      ((x.extract t).perform u h = (.error .overflow, k) ∧
        h.raised.length + translationDepth < k.raised.length)) ∧
    ∀ (inner : HostType) (i : Nat) (j : Memory), t = .list inner →
      inner.Short x.ref i h.memory j → ∃ f k, (x.extract t).perform u h = (.error f, k) ∧
        (Eval.sequenceItemAt Machine.top x.ref i).Fails j f k.memory := by
  have comes := (extract_behaves t live).comes admits clear
  have honest : Op.Honest translationDepth True (x.extract t) := extract_honest x t
  have ends := honest.ends (fun _ => admits) clear
  generalize (x.extract t).perform u h = b at comes ends ⊢
  obtain ⟨res, k⟩ := b
  refine ⟨⟨?_, fun overfull => ?_⟩, fun room => ⟨k, ?_⟩, ?_⟩
  · rintro ⟨text, k', same⟩
    cases same
    exact .of_panic comes
  · cases overfull.panics comes
    exact ⟨_, _, rfl⟩
  · match res with
    | .ok v => exact .inl ⟨v, rfl⟩
    | .error (.error e) => exact .inr (.inl ⟨e, rfl⟩)
    | .error (.panic text) => exact absurd (.of_panic comes) room
    | .error .overflow =>
      cases ends with
      | exhausted deep => exact .inr (.inr ⟨rfl, deep⟩)
  · rintro inner i j rfl short
    obtain ⟨f, rfl, fails⟩ := short.fails comes
    exact ⟨f, k, rfl, fails⟩

/-- A memory with a range of so many integers. -/
def rangeOf (count : Int) : Memory :=
  { Memory.fresh with cells := #[⟨Ref.ofBuiltin .range, .range 0 count 1, Option.none⟩] }

/-- A range that says that it has more items than there is room for texts. -/
abbrev wideRange : Memory := rangeOf 1152921504606846976

theorem wideRange_measures :
    HostType.Measures (.cell 0) wideRange 1152921504606846976 wideRange :=
  ⟨rfl, rfl, rfl⟩

theorem wide_range_panics : ∃ k, ((adopt (.cell 0)).extract (.list .text)).perform 0
    { Host.fresh with memory := wideRange } = (.error (.panic "capacity overflow"), k) := by
  have comes := (extract_behaves (.list .text) (x := adopt (.cell 0)) rfl).comes (t := 0)
    (h := { Host.fresh with memory := wideRange }) (.inl rfl) rfl
  have overfull : HostType.Overfull (.list .text) (.cell 0) wideRange :=
    .list wideRange_measures (by decide)
  exact ⟨_, Prod.ext (overfull.panics comes) rfl⟩

/-- There is room for as many truth values, and the range is refused like any other. -/
theorem wide_range_fits_truths :
    (Host.Admits { Host.fresh with memory := wideRange } 0) ∧
      ¬ ∃ text k, ((adopt (.cell 0)).extract (.list .truth)).perform 0
        { Host.fresh with memory := wideRange } = (.error (.panic text), k) := by
  refine ⟨.inl rfl, fun panics => ?_⟩
  have overfull := (extract_panics_iff_overfull (.list .truth) (x := adopt (.cell 0)) (u := 0)
    (h := { Host.fresh with memory := wideRange }) rfl (.inl rfl) rfl).1.mp panics
  cases overfull with
  | list measures beyond =>
    cases wideRange_measures.length.symm.trans measures.length
    exact absurd beyond (by decide)
  | item _ _ _ _ _ inner => cases inner

end Handle

end EmbeddedPython
