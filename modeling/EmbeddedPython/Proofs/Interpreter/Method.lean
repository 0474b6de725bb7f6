import EmbeddedPython.Interpreter.Call

/-
  Native methods

  An object of a built-in class answers to a name of its class with a bound
  method, as long as no program has given it an attribute of that name, and
  calling the bound method does what the class says.
-/

namespace EmbeddedPython

namespace Memory

/-! ## Looking up -/

theorem findIn_builtin (m : Memory) (name : String) (cs : List Builtin) :
    m.findIn name (cs.map Ref.ofBuiltin) =
      (cs.find? fun c => c.members.contains name).map Found.native := by
  induction cs with
  | nil => rfl
  | cons c cs ih =>
    rw [List.map_cons, findIn, List.find?_cons]
    show (if c.members.contains name then _ else _) = _
    cases c.members.contains name with
    | true => rfl
    | false => exact ih

/-- A built-in class has what its ancestors define. -/
theorem find_builtin (m : Memory) (c : Builtin) (name : String) :
    m.find (Ref.ofBuiltin c) name = (c.definer? name).map Found.native :=
  m.findIn_builtin name c.lineage

theorem special_builtin {m : Memory} {r : Ref} {c : Builtin} (h : m.classOf r = Ref.ofBuiltin c)
    (name : String) : m.special r name = (c.definer? name).map Found.native := by
  rw [special, h, find_builtin]

/-- What has another value than a class is none, if it is not there once and for all. -/
theorem class?_of_value {m : Memory} {id : Nat} (h : ∀ info, m.valueOf (.cell id) ≠ .cls info) :
    m.class? (.cell id) = none := by
  rw [class?]
  split
  · next info hc => exact absurd hc (h info)
  · rfl

theorem class?_of_asyncio {m : Memory} {r : Ref} (h : (m.valueOf r).isAsyncio = true) :
    m.class? r = none := by
  cases r with
  | static s => cases s <;> cases h
  | cell id =>
    refine class?_of_value fun info hc => ?_
    rw [hc] at h
    cases h

/-- Whether objects are made and nothing else happens to objects. -/
structure Adds (m n : Memory) : Prop where
  has : ∀ {r : Ref}, m.Has r → n.Has r
  object : ∀ {r : Ref}, m.Has r → n.object r = m.object r
  customized : n.customized = m.customized

namespace Adds

variable {m n k : Memory} {r : Ref}

theorem trans (mn : m.Adds n) (nk : n.Adds k) : m.Adds k where
  has hr := nk.has (mn.has hr)
  object hr := (nk.object (mn.has hr)).trans (mn.object hr)
  customized := nk.customized.trans mn.customized

theorem alloc (m : Memory) (o : Object) : m.Adds (m.alloc o).2 where
  has := (Evolves.alloc m o).has
  object hr := object_alloc hr o
  customized := rfl

theorem of_cells (cells : n.cells = m.cells) (customized : n.customized = m.customized) :
    m.Adds n where
  has hr := hr.of_size_le (Nat.le_of_eq (congrArg Array.size cells.symm))
  object _ := object_congr cells _
  customized := customized

theorem valueOf (h : m.Adds n) {v : Value} (hv : m.valueOf r = v) (hp : v ≠ .plain) :
    n.valueOf r = v := by
  rw [Memory.valueOf, h.object (has_of_value (hv ▸ hp))]
  exact hv

theorem genuine (h : m.Adds n) {c : Builtin} (hr : m.Has r) (hg : m.Genuine r c) :
    n.Genuine r c := by
  refine ⟨?_, ?_, ?_⟩
  · rw [classOf, h.object hr]
    exact hg.cls
  · rw [h.object hr]
    exact hg.attributes
  · rw [h.customized]
    exact hg.untouched

end Adds

end Memory

namespace Eval

variable {α : Type}

theorem run_valueOf_bind (r : Ref) (next : Value → Eval α) (m : Memory) :
    (valueOf r >>= next).run m = (next (m.valueOf r)).run m := rfl

theorem run_special_bind (r : Ref) (name : String) (next : Option Found → Eval α) (m : Memory) :
    (special r name >>= next).run m = (next (m.special r name)).run m := rfl

theorem run_ownAttr_bind {m : Memory} {r : Ref} {name : String}
    (h : ((m.object r).attributes.getD []).lookup name = none) (next : Option Ref → Eval α) :
    (ownAttr r name >>= next).run m = (next none).run m := by
  rw [run_bind]
  simp only [ownAttr, run_memory_bind]
  cases ha : (m.object r).attributes with
  | none => rfl
  | some attributes =>
    rw [ha] at h
    simp only [run_pure]
    rw [show attributes.lookup name = none from h]

theorem bind_evolves (body : Eval α) {β : Type} (next : α → Eval β) (m : Memory) :
    (body.run m).2.Evolves ((body >>= next).run m).2 := by
  rw [run_bind]
  rcases body.run m with ⟨_ | a, n⟩
  · exact .refl n
  · exact (next a).evolves n

theorem tryCatch_evolves (body : Eval α) (handler : Ref → Eval α) (m : Memory) :
    (body.run m).2.Evolves ((tryCatch body handler).run m).2 := by
  rw [run_tryCatch]
  rcases body.run m with ⟨e | a, n⟩
  · exact (handler e).evolves n
  · exact .refl n

/-! ## Making and raising -/

/-- What is made has the value that it is made with. -/
theorem make_run (c : Builtin) (v : Value) (m : Memory) :
    ∃ r n, (make c v).run m = (.ok r, n) ∧ m.Adds n ∧ n.valueOf r = v :=
  ⟨_, _, rfl, .alloc m _, congrArg Object.value (m.object_alloc_new _)⟩

theorem newText_run (t : Text) (m : Memory) : ∃ r n, (newText t).run m = (.ok r, n) := by
  simp only [newText]
  split
  · exact ⟨_, _, rfl⟩
  · split <;> exact ⟨_, _, rfl⟩
  · exact ⟨_, _, rfl⟩

theorem raise_run (c : ExceptionClass) (text : Text) (m : Memory) :
    ∃ e n, (raise c text : Eval α).run m = (.error e, n) := by
  obtain ⟨r, n, hr⟩ := newText_run text m
  simp only [raise]
  rw [run_bind_ok hr]
  exact ⟨_, _, rfl⟩

theorem noAttribute_run (r : Ref) (name : String) (m : Memory) :
    ∃ e n, (noAttribute r name : Eval α).run m = (.error e, n) := raise_run _ _ m

/-! ## Reading -/

/-- A name that a built-in class defines is read as a bound method. -/
theorem getAttr_native {m : Memory} {r : Ref} {c owner : Builtin} {name : String} (mach : Machine)
    (cls : m.classOf r = Ref.ofBuiltin c) (instance' : m.class? r = none)
    (own : ((m.object r).attributes.getD []).lookup name = none)
    (definer : c.definer? name = some owner) (plain : c.definer? "__getattr__" = none)
    (data : (nativeData owner name r).run m = (.ok none, m))
    (bound : isClassMethod owner name = false) :
    (getAttr mach r name).run m =
      ((make .nativeFunction (.nativeMethod owner name r) : Eval Ref)).run m := by
  have found : (findAttr mach r name).run m =
      (do pure (some (← make .nativeFunction (.nativeMethod owner name r))) :
        Eval (Option Ref)).run m := by
    simp only [findAttr, run_memory_bind, instance', Option.isSome_none, Bool.false_eq_true, if_false]
    rw [run_special_bind, m.special_builtin cls, definer]
    simp only [Option.map_some]
    rw [run_bind_ok data, run_ownAttr_bind own, run_valueOf_bind]
    simp only [bound, Bool.false_eq_true, if_false]
  simp only [getAttr]
  rw [run_special_bind, m.special_builtin cls, plain]
  simp only [Option.map_none]
  rw [run_bind, found]
  rfl

/-- A name that neither the class of an object defines nor the object keeps cannot be read. -/
theorem getAttr_absent {m : Memory} {r : Ref} {c : Builtin} {name : String} (mach : Machine)
    (cls : m.classOf r = Ref.ofBuiltin c) (instance' : m.class? r = none)
    (own : ((m.object r).attributes.getD []).lookup name = none) (value : m.valueOf r = .plain)
    (definer : c.definer? name = none) (plain : c.definer? "__getattr__" = none) :
    ∃ e n, (getAttr mach r name).run m = (.error e, n) := by
  have implicit : isImplicit m r name = false := by
    simp only [isImplicit, cls]
    rfl
  have found : (findAttr mach r name).run m = (.ok none, m) := by
    simp only [findAttr, run_memory_bind, instance', Option.isSome_none, Bool.false_eq_true, if_false]
    rw [run_special_bind, m.special_builtin cls, definer]
    simp only [Option.map_none]
    rw [run_bind_ok (run_pure none m), run_ownAttr_bind own, run_valueOf_bind, value]
    simp only [run_memory_bind, implicit, Bool.false_eq_true, if_false, run_pure]
  simp only [getAttr]
  rw [run_special_bind, m.special_builtin cls, plain]
  simp only [Option.map_none]
  rw [run_bind_ok found]
  exact noAttribute_run r name m

/-! ## Calling -/

/-- Calling a bound method is calling the method. -/
theorem callObject_native {m : Memory} {f self : Ref} {owner : Builtin} {name : String}
    (h : m.valueOf f = .nativeMethod owner name self) (mach : Machine) (arguments : List Ref)
    (keywords : List (Text × Ref)) : (callObject mach f arguments keywords).run m =
      (callNative mach owner name self arguments keywords).run m := by
  cases f with
  | static s => cases s <;> cases h
  | cell id =>
    have unclassed : m.class? (.cell id) = none :=
      Memory.class?_of_value fun info hc => by rw [h] at hc; cases hc
    simp only [callObject, run_memory_bind, unclassed, Option.isSome_none, Bool.false_eq_true, if_false]
    rw [run_valueOf_bind, h]

/-- A method that its class finds does what the class says. -/
theorem callNative_named {m n : Memory} {owner : Builtin} {name : String} {self : Ref}
    {arguments : List Ref} {r : Ref} (mach : Machine) (bound : isClassMethod owner name = false)
    (found : (namedMethod mach owner name self arguments []).run m = (.ok (some r), n)) :
    (callNative mach owner name self arguments []).run m = (.ok r, n) := by
  simp only [callNative, List.isEmpty_nil, Bool.not_true, Bool.false_and, Bool.false_eq_true,
    if_false, bound]
  rw [run_bind_ok found]
  rfl

theorem callNative_failing {m n : Memory} {owner : Builtin} {name : String} {self : Ref}
    {arguments : List Ref} {e : Ref} (mach : Machine) (bound : isClassMethod owner name = false)
    (failing : (namedMethod mach owner name self arguments []).run m = (.error e, n)) :
    (callNative mach owner name self arguments []).run m = (.error e, n) := by
  simp only [callNative, List.isEmpty_nil, Bool.not_true, Bool.false_and, Bool.false_eq_true,
    if_false, bound]
  simp only [run_bind, failing]

end Eval

end EmbeddedPython
