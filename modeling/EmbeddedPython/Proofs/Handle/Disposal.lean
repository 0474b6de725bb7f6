import EmbeddedPython.Handle.Call
import EmbeddedPython.Handle.Comparison
import EmbeddedPython.Handle.Conversion

/-
  Handles that have been disposed of

  An operation that needs the object of a handle first asks for its reference. A
  handle that has been disposed of gives none, so the operation is refused before
  it takes the lock, and nothing has changed: no program has run and no object is
  held more or less often. This is so for handles to the singletons too.

  Reading a value is the exception. Nothing and an option are recognized by the
  address alone, which a handle keeps. A disposed handle to `None` can therefore
  still be read, and a disposed handle to anything else is not nothing by a
  mismatch of types instead of being refused.
-/

namespace EmbeddedPython

/-- Whether an operation is refused because of a handle that has been disposed of. Nothing has
changed then. -/
def Op.Refused {α : Type} (op : Op α) : Prop :=
  ∀ (t : ThreadId) (h : Host), op.perform t h = (.error (.error .disposed), h)

namespace Op

variable {α β : Type} {op : Op α}

theorem Refused.bind (h : op.Refused) (next : α → Op β) : (op >>= next).Refused := fun t k => by
  rw [perform_bind, h t k]

/-- A refused operation leaves the placeholder for what it should have answered. -/
theorem Refused.orElse {op : Op String} (h : op.Refused) (placeholder : String) (t : ThreadId)
    (k : Host) : (Op.orElse placeholder op).perform t k = (.ok placeholder, k) := by
  rw [perform_orElse, h t k]

end Op

namespace HostType

/-- The type of what an option holds at last. -/
def core : HostType → HostType
  | option t => t.core
  | t => t

def isOption : HostType → Bool
  | option _ => true
  | _ => false

/-- What is read of a value through a handle that has been disposed of, by whether it was to
`None`. -/
def ofDisposed (isNone : Bool) : HostType → Except Error HostValue
  | unit => if isNone then .ok .unit else .error (.conversion "None" unknownType)
  | option t => if isNone then .ok .none else (t.ofDisposed isNone).map .some
  | _ => .error .disposed

/-- Reading is refused, unless nothing is read, or an option of a handle to `None`. -/
theorem ofDisposed_refused_iff (isNone : Bool) (t : HostType) :
    t.ofDisposed isNone = .error .disposed ↔
      t.core ≠ unit ∧ ¬ (t.isOption = true ∧ isNone = true) := by
  cases isNone with
  | true => cases t <;> simp [ofDisposed, core, isOption]
  | false =>
    induction t with
    | option t ih =>
      have held : (t.ofDisposed false).map HostValue.some = .error .disposed ↔
          t.ofDisposed false = .error .disposed := by
        cases t.ofDisposed false <;> simp [Except.map]
      simpa [ofDisposed, core, isOption, held] using ih
    | _ => simp [ofDisposed, core, isOption]

end HostType

namespace Handle

/-- The operations on a handle that need its object. Reading a value is not among them. -/
inductive Needing (x : Handle) : {α : Type} → Op α → Prop
  | clone : Needing x x.clone
  | richCompare (y : Handle) (c : Comparison) : Needing x (x.richCompare y c)
  | equals (y : Handle) : Needing x (x.equals y)
  | partialCompare (y : Handle) : Needing x (x.partialCompare y)
  | getAttr (name : String) : Needing x (x.getAttr name)
  | hasAttr (name : String) : Needing x (x.hasAttr name)
  | setAttr (name : String) (value : Handle) : Needing x (x.setAttr name value)
  | getItem (key : HostValue) : Needing x (x.getItem key)
  | repr : Needing x x.repr
  | str : Needing x x.str
  | getType : Needing x x.getType
  | typeName : Needing x x.typeName
  | isTruthy : Needing x x.isTruthy
  | hash : Needing x x.hash
  | referenceCount : Needing x x.referenceCount
  | call (arguments : List Handle) : Needing x (x.call arguments)
  | callMethod (name : String) (arguments : List Handle) : Needing x (x.callMethod name arguments)
  | callWithKeywords (arguments : List Handle) (names : List String) (values : List Handle)
      (extra : Option Handle) (paired : names.length = values.length) :
      Needing x (x.callWithKeywords arguments names values extra)

variable {x : Handle}

theorem live_refused (disposed : x.disposed = true) : x.live.Refused := fun t h => by
  simp only [live, disposed, if_true]
  rfl

theorem call_refused (disposed : x.disposed = true) (arguments : List Handle) :
    (x.call arguments).Refused := (live_refused disposed).bind _

theorem richCompare_refused (disposed : x.disposed = true) (y : Handle) (c : Comparison) :
    (x.richCompare y c).Refused := (live_refused disposed).bind _

/-- The identity of the objects is not looked at. -/
theorem equals_refused (disposed : x.disposed = true) (y : Handle) : (x.equals y).Refused := by
  simp only [equals, disposed, Bool.not_true, Bool.and_false, Bool.false_eq_true, if_false]
  exact richCompare_refused disposed y .eq

theorem getAttr_refused (disposed : x.disposed = true) (name : String) :
    (x.getAttr name).Refused := (live_refused disposed).bind _

theorem typeName_refused (disposed : x.disposed = true) : x.typeName.Refused :=
  .bind (.bind (live_refused disposed) _) _

/-- Neither way of calling an object with keywords is gone before the object is asked for. -/
theorem callWithKeywords_refused (disposed : x.disposed = true) (arguments : List Handle)
    {names : List String} {values : List Handle} (extra : Option Handle)
    (paired : names.length = values.length) :
    (x.callWithKeywords arguments names values extra).Refused := by
  simp only [callWithKeywords, callWithKeywordsThrough, paired, ne_eq, not_true_eq_false, if_false]
  split
  · exact call_refused disposed arguments
  · exact (live_refused disposed).bind _

theorem Needing.refused {α : Type} {op : Op α} (needs : x.Needing op) (disposed : x.disposed = true) :
    op.Refused := by
  have live : x.live.Refused := live_refused disposed
  cases needs with
  | equals y => exact equals_refused disposed y
  | partialCompare y => exact (equals_refused disposed y).bind _
  | typeName => exact typeName_refused disposed
  | callMethod name arguments => exact (getAttr_refused disposed name).bind _
  | callWithKeywords arguments names values extra paired =>
    exact callWithKeywords_refused disposed arguments extra paired
  | _ => exact live.bind _

/-- What is read through a handle that has been disposed of is known by its address, and reading it
changes nothing. -/
theorem extract_disposed (disposed : x.disposed = true) (t : HostType) (u : ThreadId) (h : Host) :
    (x.extract t).perform u h = ((t.ofDisposed x.isNone).mapError .error, h) := by
  have live : x.live.Refused := live_refused disposed
  have refused {op : Op HostValue} (hop : op.Refused) :
      op.perform u h = ((Except.error Error.disposed : Except Error HostValue).mapError .error, h) :=
    hop u h
  induction t with
  | int64 => exact refused (.bind (live.bind _) _)
  | int32 => exact refused (.bind (live.bind _) _)
  | float => exact refused (.bind (live.bind _) _)
  | truth => exact refused (.bind (live.bind _) _)
  | text => exact refused (.bind (live.bind _) _)
  | handle => exact refused (.bind (live.bind _) _)
  | list t => exact refused (.bind (live.bind _) _)
  | unit =>
    simp only [extract, HostType.ofDisposed]
    split
    · rfl
    · rw [mismatch, Op.perform_bind, (typeName_refused disposed).orElse]
      rfl
  | option t ih =>
    simp only [extract, HostType.ofDisposed]
    split
    · rfl
    · rw [Op.perform_bind, ih]
      cases t.ofDisposed x.isNone <;> rfl

/-- Every operation on a handle that has been disposed of is refused and leaves the process as it
is, immortal or not. Reading a value through it changes nothing either, and is refused just for the
types that look at the object: a handle to `None` is still read as nothing and as an empty option,
and a handle to anything else is told not to be nothing by its type. -/
theorem disposed_refused_but_for_none (r : Ref) :
    (∀ {α : Type} {op : Op α}, Needing ⟨r, true⟩ op → op.Refused) ∧
    ∀ t : HostType,
      (∀ (u : ThreadId) (h : Host), (extract ⟨r, true⟩ t).perform u h =
        ((t.ofDisposed (r == Ref.none)).mapError .error, h)) ∧
      ((extract ⟨r, true⟩ t).Refused ↔
        t.core ≠ .unit ∧ ¬ (t.isOption = true ∧ (r == Ref.none) = true)) := by
  refine ⟨fun needs => needs.refused rfl, fun t => ⟨extract_disposed rfl t, ?_⟩⟩
  have reads := extract_disposed (x := ⟨r, true⟩) rfl t
  rw [isNone] at reads
  rw [← HostType.ofDisposed_refused_iff]
  refine ⟨fun refused => ?_, fun refused u h => by rw [reads, refused]; rfl⟩
  have same := congrArg Prod.fst ((reads 0 Host.absent).symm.trans (refused 0 Host.absent))
  generalize t.ofDisposed (r == Ref.none) = o at same ⊢
  cases o with
  | ok v => cases same
  | error e =>
    cases same
    rfl

/-- A handle to `None` that has been disposed of can be neither cloned nor read as a list. -/
theorem disposed_none_is_refused :
    (clone ⟨Ref.none, true⟩).Refused ∧ (extract ⟨Ref.none, true⟩ (.list .unit)).Refused :=
  ⟨(disposed_refused_but_for_none Ref.none).1 .clone,
    ((disposed_refused_but_for_none Ref.none).2 (.list .unit)).2.mpr ⟨nofun, fun h => nomatch h.1⟩⟩

/-- A handle to `None` that has been disposed of is read as nothing and as an empty option. -/
theorem disposed_none_is_read :
    ((extract ⟨Ref.none, true⟩ .unit).perform 0 Host.fresh).1 = .ok .unit ∧
    ((extract ⟨Ref.none, true⟩ (.option .int64)).perform 0 Host.fresh).1 = .ok .none ∧
    ¬ (extract ⟨Ref.none, true⟩ .unit).Refused := by
  refine ⟨rfl, rfl, fun refused => ?_⟩
  cases congrArg Prod.fst (refused 0 Host.fresh)

end Handle

end EmbeddedPython
