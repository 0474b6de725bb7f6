import EmbeddedPython.Proofs.Host.Returning
import EmbeddedPython.Proofs.Host.Status
import EmbeddedPython.Proofs.Interpreter.Preparation
import EmbeddedPython.Handle.Call

/-
  Calls that are sure to return

  A call by live handles returns what the interpreter returns that applies the
  object, after it has been given the arguments and the named values.
-/

namespace EmbeddedPython

variable {α : Type} {m n o : Memory}

namespace Op.Returns

variable {a : α}

theorem letGo (r : Ref) (m : Memory) : Returns (Op.letGo r) m () m :=
  update fun h => by split <;> rfl

theorem ask {body : Eval α} (refs : List Ref) (h : body.run m = (.ok a, n)) :
    Returns (Op.ask refs body) m a n :=
  (enter refs h).bind (.pure a n)

theorem askDone {body : Eval Unit} (refs : List Ref) (h : body.run m = (.ok (), n)) :
    Returns (Op.askDone refs body) m () n := by
  rw [askDone_eq]
  exact ask refs h

end Op.Returns

namespace Handle

open Op

variable {f x y t d : Handle} {items values : List Handle} {r g : Ref}

theorem fill_returns (live : ∀ x ∈ items, x.disposed = false)
    (h : (Eval.addItems t.ref (items.map ref)).run m = (.ok (), n)) :
    Returns (fill t items) m () n := by
  induction items generalizing m with
  | nil =>
    cases h
    exact .pure () _
  | cons x rest ih =>
    rw [List.map_cons, Eval.addItems, List.isEmpty_map] at h
    obtain ⟨_, i, added, others⟩ := Eval.bind_returned h
    rw [fill, live_run (live x List.mem_cons_self), pure_bind]
    exact (Returns.passing _ m).bind ((Returns.hold _ m).bind ((Returns.askDone _ added).bind
      ((Returns.letGo _ i).bind (ih (fun y hy => live y (List.mem_cons_of_mem x hy)) others))))

theorem tupleOf_returns (live : ∀ x ∈ items, x.disposed = false)
    (h : (Eval.tupleFrom (items.map ref)).run m = (.ok r, n)) :
    Returns (tupleOf items) m (adopt r) n := by
  rw [Eval.tupleFrom, List.isEmpty_map] at h
  rw [tupleOf]
  split at h
  · next empty =>
    rw [if_pos empty]
    exact .request [] h
  · next some =>
    rw [if_neg some]
    obtain ⟨tuple, i, made, h⟩ := Eval.bind_returned h
    obtain ⟨_, j, filled, h⟩ := Eval.bind_returned h
    cases h
    have filled := (fill_returns (t := adopt r) live filled).onFailure (adopt r).drop
    exact (Returns.request [] made).bind (filled.bind (.pure _ _))

theorem nameValues_returns {named : List (String × Handle)} (live : ∀ p ∈ named, p.2.disposed = false)
    (h : (Eval.nameAll d.ref (named.map fun p => (p.1, p.2.ref))).run m = (.ok (), n)) :
    Returns (nameValues d named) m () n := by
  induction named generalizing m with
  | nil =>
    cases h
    exact .pure () _
  | cons p rest ih =>
    rw [List.map_cons, Eval.nameAll] at h
    obtain ⟨key, i, made, h⟩ := Eval.bind_returned h
    obtain ⟨_, j, set, others⟩ := Eval.bind_returned h
    rw [nameValues, live_run (live p List.mem_cons_self), pure_bind]
    exact (Returns.request [] made).bind ((spend_returns (.askDone _ set)).bind
      (ih (fun q hq => live q (List.mem_cons_of_mem p hq)) others))

/-- A call with named values. -/
theorem callWithKeywords_returns {names : List String} {a : Arguments}
    (lengths : names.length = values.length) (some : names ≠ [])
    (live : ∀ x ∈ f :: items ++ values, x.disposed = false)
    (prepared : (Eval.preparation f.ref (items.map ref)
      ((names.zip values).map fun p => (p.1, p.2.ref)) Option.none).run m = (.ok a, n))
    (call : (Machine.top.call f.ref a.items a.keywords).run n = (.ok r, o)) :
    Returns (f.callWithKeywords items names values Option.none) m (adopt r) o := by
  have named : names.isEmpty = false := by simpa using some
  have pairs : ((names.zip values).map fun p => (p.1, p.2.ref)).isEmpty = false := by
    cases names with
    | nil => exact absurd rfl some
    | cons name names =>
      cases values with
      | nil => cases lengths
      | cons x values => rfl
  rw [Eval.preparation, pairs] at prepared
  obtain ⟨p, i, merged, handed⟩ := Eval.bind_returned prepared
  obtain ⟨q, j, held, merged⟩ := Eval.bind_returned merged
  obtain ⟨tuple, k, first, held⟩ := Eval.bind_returned held
  obtain ⟨dict, l, second, held⟩ := Eval.bind_returned held
  cases held
  obtain ⟨_, l, read, merged⟩ := Eval.bind_returned merged
  cases read
  obtain ⟨_, l, filled, merged⟩ := Eval.bind_returned merged
  cases merged
  have applied : (Eval.applyAll Machine.top.call f.ref tuple dict).run i = (.ok r, o) := by
    rw [Eval.applyAll_eq, Eval.run_bind_ok handed]
    exact call
  simp only [callWithKeywords, callWithKeywordsThrough, lengths, ne_eq, not_true_eq_false, if_false,
    named, Bool.false_and, Bool.false_eq_true]
  rw [live_run (live f List.mem_cons_self), pure_bind]
  refine .guarded ((tupleOf_returns (fun x hx => live x ?_) first).bind (spend_returns ?_))
  · exact List.mem_cons_of_mem f (List.mem_append_left values hx)
  refine (Returns.request [] second).bind (spend_returns ?_)
  refine (nameValues_returns (d := adopt dict) (fun p hp => ?_) filled).bind (.request _ applied)
  exact live p.2 (List.mem_append_right _ (List.of_mem_zip hp).2)

/-- A call of a method with an argument. -/
theorem callMethod_one_returns {name : String} (hx : x.disposed = false) (hy : y.disposed = false)
    (plain : terminated name = .ok name)
    (read : (Eval.getAttr Machine.top x.ref name).run m = (.ok g, n))
    (call : (Machine.top.call g [y.ref] []).run n = (.ok r, o)) :
    Returns (x.callMethod name [y]) m (adopt r) o := by
  refine (getAttr_returns hx plain read).bind (spend_returns ?_)
  rw [Handle.call, callThrough, live_run rfl, pure_bind]
  simp only [live_run hy, pure_bind]
  exact .guarded (.request [g, y.ref] call)

/-- A clone is made of a live handle. -/
theorem clone_returns (hx : x.disposed = false) (m : Memory) : Returns x.clone m (adopt x.ref) m := by
  rw [clone, live_run hx, pure_bind]
  split
  · exact ((Returns.passing _ m).bind (.hold _ m)).guarded.bind (.pure _ m)
  · exact .pure _ m

/-- An attribute that can be read is there. -/
theorem hasAttr_returns {name : String} (hx : x.disposed = false) (plain : terminated name = .ok name)
    (h : (Eval.getAttr Machine.top x.ref name).run m = (.ok r, n)) :
    Returns (x.hasAttr name) m true n := by
  rw [hasAttr, live_run hx, pure_bind, plain]
  exact .guarded ((Returns.enter [x.ref] h).bind (.pure true n))

/-- Asking for a method that a built-in class defines makes the bound method and does nothing to any
object. -/
theorem hasAttr_native {name : String} {c owner : Builtin} (hx : x.disposed = false)
    (plain : terminated name = .ok name) (cls : m.classOf x.ref = Ref.ofBuiltin c)
    (instance' : m.class? x.ref = Option.none) (attributes : (m.object x.ref).attributes = Option.none)
    (definer : c.definer? name = some owner) (dynamic : c.definer? "__getattr__" = Option.none)
    (data : (Eval.nativeData owner name x.ref).run m = (.ok Option.none, m))
    (bound : Eval.isClassMethod owner name = false) :
    ∃ n, Returns (x.hasAttr name) m true n ∧ m.Adds n := by
  have own : ((m.object x.ref).attributes.getD []).lookup name = Option.none := by
    rw [attributes]
    rfl
  have read := Eval.getAttr_native Machine.top cls instance' own definer dynamic data bound
  obtain ⟨f, n, made, adds, -⟩ := Eval.make_run .nativeFunction (.nativeMethod owner name x.ref) m
  exact ⟨n, hasAttr_returns hx plain (read.trans made), adds⟩

end Handle

namespace Eval

/-- Without a mapping nothing is done to the objects that are there. -/
theorem preparation_adds (f : Ref) (items : List Ref) (named : List (String × Ref)) (m : Memory) :
    ∃ n, (preparation f items named none).run m = (.ok ⟨items, if n.isCallable f then
      Keywords.settled (named.map fun p => (Text.ofString p.1, p.2)) else []⟩, n) ∧ m.Adds n := by
  by_cases alone : named = []
  · subst alone
    obtain ⟨n, run, adds⟩ := positional_run items m
    refine ⟨n, run.trans ?_, adds⟩
    exact congrArg (fun k => (Except.ok (Arguments.mk items k), n)) (ite_self []).symm
  · obtain ⟨r, id, i, made, adds, new, tuple, empty⟩ := containers_run items m
    obtain ⟨n, filled, refills, spells⟩ := nameAll_texts named empty
    have whole := ((nameAll (.cell id) named).evolves i).fixed tuple rfl
    rw [filled] at whole
    refine ⟨n, ?_, refills.adds adds new⟩
    have some : ¬ (named.isEmpty && (none : Option Ref).isNone) = true := by
      simpa using alone
    rw [preparation, if_neg some, merged, bind_assoc, run_bind_ok made, bind_assoc]
    simp only [readExtra, pure_bind, bind_assoc]
    rw [run_bind_ok filled]
    exact handed_run whole spells

end Eval

end EmbeddedPython
