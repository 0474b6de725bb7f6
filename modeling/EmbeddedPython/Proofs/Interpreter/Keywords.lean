import EmbeddedPython.Interpreter.Application
import EmbeddedPython.Proofs.Interpreter.Holding
import Mathlib.Data.List.Forall2

/-
  Keywords

  The keywords of a call are the entries of a mapping with named values laid
  over them: a value takes the place of the one of the same name, and a new name
  comes last. A dictionary whose keys are texts behaves so, as hashing and
  comparing texts runs no code of the program.
-/

namespace EmbeddedPython

/-! ## Overlays -/

/-- Named values, in order. -/
abbrev Keywords := List (Text × Ref)

namespace Keywords

/-- Names a value. A name that is there stays where it is. -/
def put (t : Text) (r : Ref) : Keywords → Keywords
  | [] => [(t, r)]
  | p :: rest => if p.1 = t then (t, r) :: rest else p :: put t r rest

/-- Names values one after the other. -/
def overlay (k : Keywords) (named : Keywords) : Keywords :=
  named.foldl (fun k p => k.put p.1 p.2) k

theorem lookup_cons (p : Text × Ref) (k : Keywords) (t : Text) :
    List.lookup t (p :: k) = if t = p.1 then some p.2 else k.lookup t := by
  rw [List.lookup_cons]
  by_cases h : t = p.1
  · rw [if_pos h, h, beq_self_eq_true]
  · rw [if_neg h, beq_false_of_ne h]

/-- Named values of which each takes the place of those of the same name before it. -/
def settled (k : Keywords) : Keywords := overlay [] k

theorem put_of_new {k : Keywords} {t : Text} (r : Ref) (h : ∀ p ∈ k, p.1 ≠ t) :
    k.put t r = k ++ [(t, r)] := by
  induction k with
  | nil => rfl
  | cons p rest ih =>
    rw [put, if_neg (h p List.mem_cons_self), ih fun q hq => h q (List.mem_cons_of_mem p hq)]
    rfl

theorem fst_mem_put {k : Keywords} {t : Text} {r : Ref} {p : Text × Ref} (h : p ∈ k.put t r) :
    p.1 = t ∨ p ∈ k := by
  induction k with
  | nil => exact .inl (congrArg Prod.fst (List.mem_singleton.mp h))
  | cons q rest ih =>
    rw [put] at h
    split at h
    · rcases List.mem_cons.mp h with rfl | h
      · exact .inl rfl
      · exact .inr (List.mem_cons_of_mem q h)
    · rcases List.mem_cons.mp h with rfl | h
      · exact .inr List.mem_cons_self
      · exact (ih h).imp id (List.mem_cons_of_mem q)

/-- Whether no name is there twice. -/
def Distinct (k : Keywords) : Prop := k.Pairwise fun p q => p.1 ≠ q.1

theorem Distinct.put {k : Keywords} (h : k.Distinct) (t : Text) (r : Ref) :
    (k.put t r).Distinct := by
  induction h with
  | nil => exact List.pairwise_singleton _ _
  | @cons p rest others _ ih =>
    rw [Keywords.put]
    split
    · next same => exact .cons (fun q hq => same ▸ others q hq) ‹_›
    · next differs =>
      refine .cons (fun q hq => ?_) ih
      rcases fst_mem_put hq with new | old
      · rw [new]
        exact differs
      · exact others q old

end Keywords

/-! ## Comparing texts -/

namespace Eval

variable {m : Memory} {a b : Ref} {s t : Text}

theorem hash_text (depth : Nat) (h : m.Holds a .str (.text t)) :
    ((machine (depth + 1)).hash a).run m = (.ok (Hash.ofText t), m) := by
  have native : m.special a "__hash__" = some (.native .str) := h.special "__hash__"
  show (hashOf (machine depth) a).run m = _
  simp only [hashOf, run_special_bind, native, nativeHash, bind_assoc, run_valueOf_bind, h.value,
    pure_bind, run_pure]

theorem orderPoints_eq (x y : List Nat) : (orderPoints x y == .eq) = (x == y) := by
  rw [orderPoints]
  by_cases less : x < y
  · have differ : x ≠ y := by
      rintro rfl
      exact List.lt_irrefl x less
    rw [if_pos less, beq_false_of_ne differ]
    rfl
  · rw [if_neg less]
    by_cases greater : y < x
    · have differ : x ≠ y := by
        rintro rfl
        exact List.lt_irrefl x greater
      rw [if_pos greater, beq_false_of_ne differ]
      rfl
    · obtain rfl : x = y := List.le_antisymm (List.not_lt.mp greater) (List.not_lt.mp less)
      rw [if_neg greater, beq_self_eq_true, beq_self_eq_true]

theorem compare_texts (depth : Nat) (ha : m.Holds a .str (.text s))
    (hb : m.Holds b .str (.text t)) :
    ((machine (depth + 1)).compare .eq a b).run m = (.ok (Ref.ofBool (s == t)), m) := by
  have native : m.special a "__eq__" = some (.native .str) := ha.special "__eq__"
  have same : (m.classOf a != m.classOf b) = false := by
    rw [ha.cls, hb.cls]
    rfl
  have points : (s.points == t.points) = (s == t) := by
    cases s
    cases t
    rw [Bool.eq_iff_iff, beq_iff_eq, beq_iff_eq, Text.mk.injEq]
  show (richCompare (machine depth) .eq a b).run m = _
  simp only [richCompare, run_memory_bind, same, Bool.false_and, Bool.false_eq_true, if_false,
    noAnswer, pure_bind, bne_self_eq_false, answerOf, Comparison.methodName, bind_assoc, run_special_bind,
    native, nativeCompare, run_valueOf_bind, ha.value, hb.value, answerOrder, answerBool,
    Comparison.holds, orderPoints_eq, points]
  rfl

end Eval

/-! ## Dictionaries whose keys are texts -/

namespace Memory

variable {m n : Memory}

/-- Whether an entry of a dictionary names a value by a text. -/
structure Names (m : Memory) (e : Entry) (p : Text × Ref) : Prop where
  key : m.Holds e.key .str (.text p.1)
  hash : e.hash = Hash.ofText p.1
  value : e.value = p.2

/-- Whether the entries of a dictionary are named values. -/
def Spells (m : Memory) (entries : List Entry) (k : Keywords) : Prop :=
  List.Forall₂ m.Names entries k ∧ k.Distinct

end Memory

namespace Eval

variable {m : Memory} {key : Ref} {t : Text} {entries : List Entry} {k : Keywords}

/-- What is looked for by a text: the first entry of the text, or nothing if there is none. -/
def Finds (m : Memory) (t : Text) (entries : List Entry) (k : Keywords) (found : Option Entry) :
    Prop :=
  found = none ∧ (∀ p ∈ k, p.1 ≠ t) ∨ ∃ e ∈ entries, found = some e ∧ m.valueOf e.key = .text t

theorem Finds.later {e : Entry} {p : Text × Ref} {found : Option Entry} (other : p.1 ≠ t)
    (h : Finds m t entries k found) : Finds m t (e :: entries) (p :: k) found := by
  rcases h with ⟨rfl, absent⟩ | ⟨e', he, rfl, value⟩
  · refine .inl ⟨rfl, fun q hq => ?_⟩
    rcases List.mem_cons.mp hq with rfl | hq
    · exact other
    · exact absent q hq
  · exact .inr ⟨e', List.mem_cons_of_mem e he, rfl, value⟩

theorem findEntry_texts (depth : Nat) (names : List.Forall₂ m.Names entries k)
    (hk : m.Holds key .str (.text t)) :
    ∃ found, (findEntry (machine (depth + 1)) (Hash.ofText t) key entries).run m = (.ok found, m) ∧
      Finds m t entries k found := by
  induction names with
  | nil => exact ⟨none, rfl, .inl ⟨rfl, by rintro p ⟨⟩⟩⟩
  | @cons e p entries k name names ih =>
    obtain ⟨found, run, finds⟩ := ih
    rw [findEntry]
    by_cases identical : e.key = key
    · rw [if_pos (beq_iff_eq.mpr identical)]
      exact ⟨some e, rfl, .inr ⟨e, List.mem_cons_self, rfl, identical ▸ hk.value⟩⟩
    · rw [if_neg (mt beq_iff_eq.mp identical)]
      by_cases hash : e.hash = Hash.ofText t
      · rw [if_pos (beq_iff_eq.mpr hash), run_bind_ok (compare_texts depth name.key hk)]
        by_cases same : p.1 = t
        · rw [same, beq_self_eq_true]
          exact ⟨some e, rfl, .inr ⟨e, List.mem_cons_self, rfl, same ▸ name.key.value⟩⟩
        · rw [beq_false_of_ne same]
          exact ⟨found, run, finds.later same⟩
      · rw [if_neg (mt beq_iff_eq.mp hash)]
        exact ⟨found, run, finds.later fun same => hash (same ▸ name.hash)⟩

/-- An entry in which another value is put in the place of the one that was found. -/
def Entry.replace (found : Entry) (value : Ref) (e : Entry) : Entry :=
  if e.key == found.key then { e with value := value } else e

theorem Entry.replace_of_ne {found e : Entry} {p : Text × Ref} {value : Ref} (name : m.Names e p)
    (ht : m.valueOf found.key = .text t) (other : p.1 ≠ t) : Entry.replace found value e = e := by
  refine if_neg fun same => other ?_
  have value := name.key.value
  rw [beq_iff_eq.mp same, ht] at value
  cases value
  rfl

/-- Where a text is not there nothing is replaced. -/
theorem replace_absent {found : Entry} (value : Ref) (names : List.Forall₂ m.Names entries k)
    (ht : m.valueOf found.key = .text t) (absent : ∀ p ∈ k, p.1 ≠ t) :
    List.Forall₂ m.Names (entries.map (Entry.replace found value)) k := by
  induction names with
  | nil => exact .nil
  | @cons e p entries k name names ih =>
    rw [List.map_cons, Entry.replace_of_ne name ht (absent p List.mem_cons_self)]
    exact .cons name (ih fun q hq => absent q (List.mem_cons_of_mem p hq))

theorem name_of_mem (names : List.Forall₂ m.Names entries k) {e : Entry} (he : e ∈ entries)
    (ht : m.valueOf e.key = .text t) : ∃ p ∈ k, p.1 = t := by
  induction names with
  | nil => cases he
  | @cons e' p entries k name names ih =>
    rcases List.mem_cons.mp he with rfl | he
    · have value := name.key.value
      rw [ht] at value
      cases value
      exact ⟨p, List.mem_cons_self, rfl⟩
    · obtain ⟨q, hq, same⟩ := ih he
      exact ⟨q, List.mem_cons_of_mem p hq, same⟩

/-- The value of a text is put where the text is. -/
theorem replace_texts {found : Entry} (value : Ref) (h : m.Spells entries k) (he : found ∈ entries)
    (ht : m.valueOf found.key = .text t) :
    List.Forall₂ m.Names (entries.map (Entry.replace found value)) (k.put t value) := by
  obtain ⟨names, distinct⟩ := h
  induction names with
  | nil => cases he
  | @cons e p entries k name names ih =>
    obtain ⟨others, distinct⟩ := List.pairwise_cons.mp distinct
    rw [List.map_cons, Keywords.put]
    by_cases same : p.1 = t
    · have absent : ∀ q ∈ k, q.1 ≠ t := fun q hq => same ▸ (others q hq).symm
      have here : found = e := by
        rcases List.mem_cons.mp he with here | there
        · exact here
        · obtain ⟨q, hq, hqt⟩ := name_of_mem names there ht
          exact absurd hqt (absent q hq)
      have replaced : Entry.replace found value e = { e with value := value } :=
        if_pos (beq_iff_eq.mpr (congrArg Entry.key here.symm))
      rw [if_pos same, replaced]
      exact .cons ⟨same ▸ name.key, same ▸ name.hash, rfl⟩ (replace_absent value names ht absent)
    · have there : found ∈ entries := by
        rcases List.mem_cons.mp he with rfl | there
        · have value := name.key.value
          rw [ht] at value
          cases value
          exact absurd rfl same
        · exact there
      rw [if_neg same, Entry.replace_of_ne name ht same]
      exact .cons name (ih there distinct)

theorem withEntry_texts (depth : Nat) (h : m.Spells entries k) (hk : m.Holds key .str (.text t))
    (value : Ref) : ∃ others,
      (withEntry (machine (depth + 1)) entries key value).run m = (.ok others, m) ∧
      m.Spells others (k.put t value) := by
  obtain ⟨found, run, finds⟩ := findEntry_texts depth h.1 hk
  rw [withEntry, run_bind_ok (hash_text depth hk), run_bind_ok run]
  rcases finds with ⟨rfl, absent⟩ | ⟨e, he, rfl, ht⟩
  · refine ⟨_, rfl, ?_, h.2.put t value⟩
    rw [Keywords.put_of_new value absent]
    exact List.rel_append h.1 (.cons ⟨hk, rfl, rfl⟩ .nil)
  · exact ⟨_, rfl, replace_texts value h he ht, h.2.put t value⟩

end Eval

namespace Memory

variable {m n : Memory} {id : Nat} {entries : List Entry} {k : Keywords}

/-- Whether the dictionary in a cell has named values for its entries. -/
def SpellsAt (m : Memory) (id : Nat) (k : Keywords) : Prop :=
  ∃ entries, m.Holds (.cell id) .dict (.dict entries) ∧ m.Spells entries k

theorem Holds.refills {r : Ref} {c d : Builtin} {v w : Value} (h : m.Holds r c v) (hv : v ≠ .plain)
    (other : m.Holds (.cell id) d w) (differ : c ≠ d) (refills : Refills id m n) :
    n.Holds r c v := by
  have apart : r ≠ .cell id := by
    rintro rfl
    exact differ (Static.builtin.inj (Ref.static.inj (h.cls.symm.trans other.cls)))
  have same := refills.object (h.has hv) apart
  refine ⟨?_, ?_⟩
  · rw [classOf, same]
    exact h.cls
  · rw [valueOf, same]
    exact h.value

/-- Filling a dictionary does nothing to texts. -/
theorem Names.refills {e : Entry} {p : Text × Ref} {w : Value} (name : m.Names e p)
    (dict : m.Holds (.cell id) .dict w)
    (refills : Refills id m n) : n.Names e p :=
  ⟨name.key.refills (by rintro ⟨⟩) dict (by decide) refills, name.hash, name.value⟩

theorem Spells.refills {w : Value} (h : m.Spells entries k) (dict : m.Holds (.cell id) .dict w)
    (refills : Refills id m n) : n.Spells entries k :=
  ⟨h.1.imp fun _ _ name => name.refills dict refills, h.2⟩

end Memory

namespace Eval

variable {m n : Memory} {id : Nat} {key : Ref} {t : Text} {k : Keywords}

/-- Naming a value in a dictionary whose keys are texts. -/
theorem setKey_texts (depth : Nat) (h : m.SpellsAt id k) (hk : m.Holds key .str (.text t))
    (value : Ref) : ∃ n, (setKey (machine (depth + 1)) (.cell id) key value).run m = (.ok (), n) ∧
      Memory.Refills id m n ∧ n.SpellsAt id (k.put t value) := by
  obtain ⟨entries, holds, spells⟩ := h
  obtain ⟨others, run, spells'⟩ := withEntry_texts depth spells hk value
  have refills := Memory.Refills.setValue m id (.dict others)
  refine ⟨m.setValue (.cell id) (.dict others), ?_, refills, others, ?_, ?_⟩
  · rw [setKey]
    simp only [entriesOf, bind_assoc, run_valueOf_bind, holds.value, pure_bind]
    rw [run_bind_ok run, setValue, run_update, Memory.assign, holds.value]
    rfl
  · exact holds.setValue (by rintro ⟨⟩)
  · exact spells'.refills holds refills

/-- Names values in a dictionary, one after the other. -/
def nameAll (dict : Ref) : List (String × Ref) → Eval Unit
  | [] => pure ()
  | p :: rest => do
    setKey Machine.top dict (← newString p.1) p.2
    nameAll dict rest

theorem nameAll_texts (named : List (String × Ref)) (h : m.SpellsAt id k) :
    ∃ n, (nameAll (.cell id) named).run m = (.ok (), n) ∧ Memory.Refills id m n ∧
      n.SpellsAt id (k.overlay (named.map fun p => (Text.ofString p.1, p.2))) := by
  induction named generalizing m k with
  | nil => exact ⟨m, rfl, .of_adds (.of_cells rfl rfl), h⟩
  | cons p rest ih =>
    obtain ⟨entries, holds, spells⟩ := h
    obtain ⟨key, i, made, adds, -, hk⟩ := newText_makes (Text.ofString p.1) m
    have refills : Memory.Refills id m i := .of_adds adds
    have filled : i.SpellsAt id k := ⟨entries, holds.agrees (by rintro ⟨⟩) (Nat.le_refl id)
      fun _ hr => adds.object hr, spells.refills holds refills⟩
    obtain ⟨j, set, refills', spells'⟩ := setKey_texts 999 filled hk p.2
    obtain ⟨n, others, refills'', spells''⟩ := ih spells'
    refine ⟨n, ?_, refills.trans (refills'.trans refills''), spells''⟩
    have first : (setKey Machine.top (.cell id) key p.2).run i = (.ok (), j) := set
    rw [nameAll, newString, run_bind_ok made, run_bind_ok first]
    exact others

/-- Entries of which all keys are texts, put into a dictionary. -/
theorem setKeys_texts {entries : List Entry} {base : Keywords} (h : m.SpellsAt id k)
    (names : List.Forall₂ m.Names entries base) :
    ∃ n, (entries.forM fun e => setKey Machine.top (.cell id) e.key e.value).run m = (.ok (), n) ∧
      Memory.Refills id m n ∧ n.SpellsAt id (k.overlay base) := by
  induction entries generalizing m k base with
  | nil =>
    cases names
    exact ⟨m, rfl, .of_adds (.of_cells rfl rfl), h⟩
  | cons e entries ih =>
    obtain ⟨p, rest, name, others, rfl⟩ := List.forall₂_cons_left_iff.mp names
    obtain ⟨i, set, refills, spells⟩ := setKey_texts 999 h name.key e.value
    obtain ⟨contents, holds, -⟩ := h
    have names' : List.Forall₂ i.Names entries rest := by
      exact others.imp fun _ _ name => name.refills holds refills
    obtain ⟨n, run, refills', spells'⟩ := ih spells names'
    rw [name.value] at spells'
    refine ⟨n, ?_, refills.trans refills', spells'⟩
    have first : (setKey Machine.top (.cell id) e.key e.value).run m = (.ok (), i) := set
    exact (run_bind_ok first _).trans run

theorem keywordsOf_texts {entries : List Entry} (names : List.Forall₂ m.Names entries k) :
    (keywordsOf entries).run m = (.ok k, m) := by
  induction names with
  | nil => rfl
  | @cons e p entries k name names ih =>
    have first : (keywordOf e).run m = (.ok p, m) := by
      simp only [keywordOf, run_valueOf_bind, name.key.value, name.value, run_pure]
    rw [keywordsOf, List.mapM_cons, run_bind_ok first, ← keywordsOf, run_bind_ok ih, run_pure]

end Eval

end EmbeddedPython
