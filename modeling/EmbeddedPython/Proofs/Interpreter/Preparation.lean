import EmbeddedPython.Proofs.Interpreter.Keywords

/-
  What a callable is applied to

  Positional arguments are put into a tuple, and the entries of a mapping and
  named values into a dictionary, from which the callable gets them. All of this
  comes before the callable is applied. The items of the tuple are the arguments
  in order whatever a mapping does when it is read, and what the dictionary has
  is what the mapping offers with the named values laid over it.
-/

namespace EmbeddedPython

/-- What a callable is applied to. -/
structure Arguments where
  items : List Ref
  keywords : Keywords

def Memory.isCallable (m : Memory) (f : Ref) : Bool :=
  (m.class? f).isSome || (m.special f "__call__").isSome

namespace Eval

/-! ## Preparations -/

/-- Puts items into a tuple that is being made, one after the other. -/
def addItems (tuple : Ref) : List Ref → Eval Unit
  | [] => pure ()
  | r :: rest => do
    addItem tuple r rest.isEmpty
    addItems tuple rest

def tupleFrom (items : List Ref) : Eval Ref :=
  if items.isEmpty then newTuple []
  else do
    let tuple ← make .tuple (.list [])
    addItems tuple items
    pure tuple

/-- Positional arguments alone. One argument is handed over without a tuple. -/
def positional : List Ref → Eval Arguments
  | [] => pure ⟨[], []⟩
  | [r] => pure ⟨[r], []⟩
  | items => do
    let tuple ← tupleFrom items
    pure ⟨← itemsOf tuple, []⟩

/-- A tuple of items and an empty dictionary. -/
def containers (items : List Ref) : Eval (Ref × Ref) := do
  let tuple ← tupleFrom items
  pure (tuple, ← make .dict (.dict []))

/-- Reads a mapping, if there is one, into a dictionary. -/
def readExtra (dict : Ref) : Option Ref → Eval Unit
  | none => pure ()
  | some source => mergeMapping Machine.top dict source

/-- A tuple of items, and a dictionary of what a mapping has and of named values. -/
def merged (items : List Ref) (named : List (String × Ref)) (extra : Option Ref) :
    Eval (Ref × Ref) := do
  let p ← containers items
  readExtra p.2 extra
  nameAll p.2 named
  pure p

/-- What a callable is handed of a tuple and a dictionary. -/
def handed (f tuple dict : Ref) : Eval Arguments := do
  let items ← itemsOf tuple
  if ← isCallable f then pure ⟨items, ← keywordsOf (← entriesOf dict)⟩ else pure ⟨items, []⟩

/-- All that comes before a callable is applied. -/
def preparation (f : Ref) (items : List Ref) (named : List (String × Ref)) (extra : Option Ref) :
    Eval Arguments :=
  if named.isEmpty && extra.isNone then positional items
  else do
    let p ← merged items named extra
    handed f p.1 p.2

/-- A callable is applied to what it is handed. -/
theorem applyAll_eq (apply : Application) (f tuple dict : Ref) : applyAll apply f tuple dict =
    (do
      let a ← handed f tuple dict
      apply f a.items a.keywords) := by
  rw [applyAll, handed, bind_assoc]
  refine congrArg _ (funext fun items => ?_)
  rw [bind_assoc]
  refine congrArg _ (funext fun callable => ?_)
  cases callable with
  | true => simp only [if_true, bind_assoc, pure_bind]
  | false => simp only [Bool.false_eq_true, if_false, pure_bind]

variable {m n : Memory} {id : Nat} {r f : Ref} {items others : List Ref}

theorem isCallable_run (f : Ref) (m : Memory) : (isCallable f).run m = (.ok (m.isCallable f), m) :=
  rfl

theorem entriesOf_run {entries : List Entry} (value : m.valueOf r = .dict entries) :
    (entriesOf r).run m = (.ok entries, m) := by
  rw [entriesOf, run_valueOf_bind, value]
  rfl

theorem itemsOf_run (value : m.valueOf r = .tuple items) :
    (itemsOf r).run m = (.ok items, m) := by
  rw [itemsOf, run_valueOf_bind, value]
  rfl

/-! ## Tuples -/

theorem addItem_run (item : Ref) (last : Bool) (h : m.Holds (.cell id) .tuple (.list items)) :
    ∃ n, (addItem (.cell id) item last).run m = (.ok (), n) ∧ Memory.Refills id m n ∧
      n.Holds (.cell id) .tuple
        (if last then .tuple (items ++ [item]) else .list (items ++ [item])) := by
  refine ⟨_, ?_, .setValue m id _, h.setValue (by rintro ⟨⟩)⟩
  rw [addItem, run_valueOf_bind, h.value]
  simp only [setValue, run_update, Memory.assign, h.value]
  cases last <;> rfl

/-- The tuple has all items as soon as the last one is there. -/
theorem addItems_run (h : m.Holds (.cell id) .tuple (.list items)) (some : others ≠ []) :
    ∃ n, (addItems (.cell id) others).run m = (.ok (), n) ∧ Memory.Refills id m n ∧
      n.Holds (.cell id) .tuple (.tuple (items ++ others)) := by
  induction others generalizing m items with
  | nil => exact absurd rfl some
  | cons item rest ih =>
    obtain ⟨i, first, refills, holds⟩ := addItem_run item rest.isEmpty h
    rw [addItems]
    cases rest with
    | nil => exact ⟨i, run_bind_ok first _, refills, holds⟩
    | cons next rest =>
      obtain ⟨n, others, refills', complete⟩ := ih holds (List.cons_ne_nil next rest)
      refine ⟨n, (run_bind_ok first _).trans others, refills.trans refills', ?_⟩
      rw [List.append_cons]
      exact complete

theorem tupleFrom_run (items : List Ref) (m : Memory) : ∃ r n,
    (tupleFrom items).run m = (.ok r, n) ∧ m.Adds n ∧ n.valueOf r = .tuple items := by
  rw [tupleFrom]
  cases items with
  | nil => exact ⟨.static .emptyTuple, m, rfl, .of_cells rfl rfl, rfl⟩
  | cons item rest =>
    let tuple : Object := ⟨Ref.ofBuiltin .tuple, .list [], none⟩
    have made : (make .tuple (.list [])).run m =
      (.ok (.cell m.cells.size), (m.alloc tuple).2) := rfl
    have holds : (m.alloc tuple).2.Holds (.cell m.cells.size) .tuple (.list []) :=
      ⟨congrArg Object.cls (m.object_alloc_new tuple),
        congrArg Object.value (m.object_alloc_new tuple)⟩
    obtain ⟨n, filled, refills, complete⟩ := addItems_run holds (List.cons_ne_nil item rest)
    refine ⟨.cell m.cells.size, n, ?_, refills.adds (.alloc m tuple) (Nat.lt_irrefl _),
      complete.value⟩
    rw [List.isEmpty_cons, if_neg Bool.false_ne_true, run_bind_ok made, run_bind_ok filled]
    rfl

theorem positional_run (items : List Ref) (m : Memory) :
    ∃ n, (positional items).run m = (.ok ⟨items, []⟩, n) ∧ m.Adds n := by
  rw [positional.eq_def]
  split
  · exact ⟨m, rfl, .of_cells rfl rfl⟩
  · exact ⟨m, rfl, .of_cells rfl rfl⟩
  · obtain ⟨r, n, made, adds, value⟩ := tupleFrom_run items m
    refine ⟨n, ?_, adds⟩
    rw [run_bind_ok made, run_bind_ok (itemsOf_run value)]
    rfl

/-- The dictionary is a new one. -/
theorem containers_run (items : List Ref) (m : Memory) : ∃ r id n,
    (containers items).run m = (.ok (r, .cell id), n) ∧ m.Adds n ∧ ¬ m.Has (.cell id) ∧
      n.valueOf r = .tuple items ∧ n.SpellsAt id [] := by
  obtain ⟨r, i, made, adds, value⟩ := tupleFrom_run items m
  let dict : Object := ⟨Ref.ofBuiltin .dict, .dict [], none⟩
  have made' : (make .dict (.dict [])).run i = (.ok (.cell i.cells.size), (i.alloc dict).2) := rfl
  have new : ¬ m.Has (.cell i.cells.size) := fun old => Nat.lt_irrefl _ (adds.has old)
  refine ⟨r, i.cells.size, (i.alloc dict).2, ?_, adds.trans (.alloc i dict), new, ?_, [], ?_, ?_⟩
  · rw [containers, run_bind_ok made, run_bind_ok made']
    rfl
  · exact (Memory.Adds.alloc i dict).valueOf value (by rintro ⟨⟩)
  · exact ⟨congrArg Object.cls (i.object_alloc_new dict),
      congrArg Object.value (i.object_alloc_new dict)⟩
  · exact ⟨.nil, .nil⟩

/-! ## Mappings -/

/-- What a mapping has under its keys, which are texts, as it is read into a dictionary. The code of
the mapping leaves the dictionary alone. -/
inductive Reads (id : Nat) (source : Ref) : List Ref → Memory → Keywords → Memory → Prop
  | done {m : Memory} : Reads id source [] m [] m
  | item {m i j n : Memory} {key v : Ref} {keys : List Ref} {t : Text} {base : Keywords}
      (get : (getItem Machine.top source key).run m = (.ok v, i))
      (alone : ∀ k, m.SpellsAt id k → i.SpellsAt id k)
      (text : i.Holds key .str (.text t))
      (set : (setKey Machine.top (.cell id) key v).run i = (.ok (), j))
      (rest : Reads id source keys j base n) : Reads id source (key :: keys) m ((t, v) :: base) n

/-- What is offered by a mapping, if there is one, to a dictionary that it is read into. -/
inductive Offers (id : Nat) (m : Memory) : Option Ref → Keywords → Memory → Prop
  | nothing : Offers id m none [] m
  | entries {n : Memory} {source : Ref} {entries : List Entry} {base : Keywords}
      (own : m.ownEntries? source = some entries) (names : List.Forall₂ m.Names entries base)
      (run : (mergeMapping Machine.top (.cell id) source).run m = (.ok (), n)) :
      Offers id m (some source) base n
  | keys {i n : Memory} {source : Ref} {keys : List Ref} {base : Keywords}
      (other : m.ownEntries? source = none)
      (named : (keysOf Machine.top source).run m = (.ok keys, i))
      (alone : ∀ k, m.SpellsAt id k → i.SpellsAt id k)
      (reads : Reads id source keys i base n) : Offers id m (some source) base n

variable {k base : Keywords} {source : Ref} {extra : Option Ref}

theorem Reads.spells {keys : List Ref} (h : Reads id source keys m base n)
    (spells : m.SpellsAt id k) :
    (mergeKeys Machine.top (.cell id) source keys).run m = (.ok (), n) ∧
      n.SpellsAt id (k.overlay base) := by
  induction h generalizing k with
  | done => exact ⟨rfl, spells⟩
  | @item m i j n key v keys t base get alone text set rest ih =>
    obtain ⟨j', set', -, named⟩ := setKey_texts 999 (alone k spells) text v
    obtain rfl : j = j' := congrArg Prod.snd (set.symm.trans set')
    obtain ⟨others, complete⟩ := ih named
    have first : (do setKey Machine.top (.cell id) key (← getItem Machine.top source key)).run m =
        (.ok (), j) := (run_bind_ok get _).trans set
    exact ⟨(run_bind_ok first _).trans others, complete⟩

theorem mergeMapping_own {entries : List Entry} (own : m.ownEntries? source = some entries)
    (names : List.Forall₂ m.Names entries base) (h : m.SpellsAt id k) : ∃ n,
      (mergeMapping Machine.top (.cell id) source).run m = (.ok (), n) ∧ Memory.Refills id m n ∧
      n.SpellsAt id (k.overlay base) := by
  rw [mergeMapping, run_memory_bind, own]
  exact setKeys_texts h names

theorem Offers.spells (h : Offers id m extra base n) (spells : m.SpellsAt id k) :
    (readExtra (.cell id) extra).run m = (.ok (), n) ∧ n.SpellsAt id (k.overlay base) := by
  cases h with
  | nothing => exact ⟨rfl, spells⟩
  | entries own names run =>
    obtain ⟨n', run', -, spells'⟩ := mergeMapping_own own names spells
    obtain rfl : n = n' := congrArg Prod.snd (run.symm.trans run')
    exact ⟨run, spells'⟩
  | keys other named alone reads =>
    obtain ⟨run, spells'⟩ := reads.spells (alone k spells)
    refine ⟨?_, spells'⟩
    rw [readExtra, mergeMapping, run_memory_bind, other, run_bind_ok named]
    exact run

/-- Whether a mapping, if there is one, offers named values to every new dictionary. -/
def Supplies (m : Memory) (extra : Option Ref) (base : Keywords) : Prop :=
  ∀ {i : Memory} {id : Nat}, m.Adds i → ¬ m.Has (.cell id) → i.SpellsAt id [] →
    ∃ n, Offers id i extra base n

/-- A dictionary whose keys are texts offers its entries. -/
theorem supplies_entries {entries : List Entry} (h : m.Holds source .dict (.dict entries))
    (names : List.Forall₂ m.Names entries base) : Supplies m (some source) base := by
  intro i id adds new spells
  have agrees : Memory.Agrees 0 m i := fun _ has => adds.object has
  have above (r : Ref) : r.Above 0 := by
    cases r with
    | static s => trivial
    | cell id => exact Nat.zero_le id
  have held : i.Holds source .dict (.dict entries) := h.agrees (by rintro ⟨⟩) (above source) agrees
  have own : i.ownEntries? source = some entries := by
    rw [Memory.ownEntries?, held.special, held.value]
    rfl
  have names' : List.Forall₂ i.Names entries base := names.imp fun e _ name =>
    ⟨name.key.agrees (by rintro ⟨⟩) (above e.key) agrees, name.hash, name.value⟩
  obtain ⟨n, run, -⟩ := mergeMapping_own own names' spells
  exact ⟨n, .entries own names' run⟩

/-! ## What a callable is handed -/

variable {named : List (String × Ref)}

theorem handed_run (tuple : m.valueOf r = .tuple items) (dict : m.SpellsAt id k) :
    (handed f r (.cell id)).run m = (.ok ⟨items, if m.isCallable f then k else []⟩, m) := by
  obtain ⟨entries, holds, names, -⟩ := dict
  rw [handed, run_bind_ok (itemsOf_run tuple), run_bind_ok (isCallable_run f m)]
  cases m.isCallable f with
  | false => rfl
  | true =>
    rw [if_pos rfl, if_pos rfl, run_bind_ok (entriesOf_run holds.value),
      run_bind_ok (keywordsOf_texts names)]
    rfl

theorem bind_returned {α β : Type} {body : Eval α} {next : α → Eval β} {b : β}
    (h : (body >>= next).run m = (.ok b, n)) :
    ∃ a i, body.run m = (.ok a, i) ∧ (next a).run i = (.ok b, n) := by
  rw [run_bind] at h
  generalize hb : body.run m = r at h
  obtain ⟨e | a, i⟩ := r
  · cases h
  · exact ⟨a, i, rfl, h⟩

/-- The tuple that a mapping is read after is whole. -/
theorem merged_tuple {p : Ref × Ref} (h : (merged items named extra).run m = (.ok p, n)) :
    n.valueOf p.1 = .tuple items := by
  obtain ⟨r, id, i, made, -, -, tuple, -⟩ := containers_run items m
  rw [merged, run_bind_ok made] at h
  have rest := (do readExtra (.cell id) extra; nameAll (.cell id) named : Eval Unit).evolves i
  obtain ⟨_, j, read, h⟩ := bind_returned h
  obtain ⟨_, k, filled, h⟩ := bind_returned h
  rw [run_bind_ok read, filled] at rest
  cases h
  exact rest.fixed tuple rfl

/-- Whether nothing can be prepared for a call: a mapping cannot be read, or a key of what has been
merged is no text. -/
inductive Unfit (f : Ref) (items : List Ref) (named : List (String × Ref)) (extra : Option Ref)
    (m : Memory) : Prop
  | unread {p : Ref × Ref} {i n : Memory} {x : Ref} (made : (containers items).run m = (.ok p, i))
      (raises : (readExtra p.2 extra).run i = (.error x, n))
  | unnamed {p : Ref × Ref} {n : Memory} {entries : List Entry} {e : Entry}
      (some : named ≠ [] ∨ extra ≠ none) (run : (merged items named extra).run m = (.ok p, n))
      (callable : n.isCallable f = true) (value : n.valueOf p.2 = .dict entries)
      (mem : e ∈ entries) (other : ∀ t, n.valueOf e.key ≠ .text t)

theorem keywordsOf_returned {entries : List Entry} (h : (keywordsOf entries).run m = (.ok k, n)) :
    n = m ∧ ∀ e ∈ entries, ∃ t, m.valueOf e.key = .text t := by
  induction entries generalizing k n with
  | nil =>
    cases h
    exact ⟨rfl, by rintro e ⟨⟩⟩
  | cons e entries ih =>
    rw [keywordsOf, List.mapM_cons, ← keywordsOf] at h
    obtain ⟨p, i, first, h⟩ := bind_returned h
    obtain ⟨rest, j, others, last⟩ := bind_returned h
    cases last
    rw [keywordOf, run_valueOf_bind] at first
    split at first
    · next t text =>
      cases first
      obtain ⟨rfl, texts⟩ := ih others
      exact ⟨rfl, List.forall_mem_cons.mpr ⟨⟨t, text⟩, texts⟩⟩
    · obtain ⟨x, i, raises⟩ := raise_run .typeError "keywords must be strings" m
      cases raises.symm.trans first

theorem Unfit.raises (h : Unfit f items named extra m) :
    ∃ x n, (preparation f items named extra).run m = (.error x, n) := by
  generalize hr : (preparation f items named extra).run m = r
  obtain ⟨x | a, n⟩ := r
  · exact ⟨x, n, rfl⟩
  exfalso
  cases h with
  | unread made raises =>
    cases extra with
    | none => cases raises
    | some source =>
      rw [preparation, Option.isNone_some, Bool.and_false, if_neg Bool.false_ne_true] at hr
      obtain ⟨p, i, run, -⟩ := bind_returned hr
      rw [merged, run_bind_ok made] at run
      obtain ⟨_, _, read, -⟩ := bind_returned run
      cases raises.symm.trans read
  | @unnamed p j entries e some run callable value mem other =>
    have general : ¬ (named.isEmpty && extra.isNone) = true := by
      intro h
      obtain ⟨empty, nothing⟩ := Bool.and_eq_true_iff.mp h
      rcases some with some | some
      · exact some (List.isEmpty_iff.mp empty)
      · exact some (Option.isNone_iff_eq_none.mp nothing)
    rw [preparation, if_neg general, run_bind_ok run, handed,
      run_bind_ok (itemsOf_run (merged_tuple run)), run_bind_ok (isCallable_run f j),
      if_pos callable, run_bind_ok (entriesOf_run value)] at hr
    obtain ⟨k, _, texts, -⟩ := bind_returned hr
    obtain ⟨t, text⟩ := (keywordsOf_returned texts).2 e mem
    exact other t text

end Eval

end EmbeddedPython
