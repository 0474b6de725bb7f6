import EmbeddedPython.Interpreter.Modules
import EmbeddedPython.Proofs.Interpreter.Holding

/-
  What importing comes to

  A module that has been imported is the object it was then, and any other one is
  made, which makes objects and changes none. An attribute of a module is read from
  the module alone, and where it is not there an exception says so.
-/

namespace EmbeddedPython

namespace Text

theorem ofString_append (a b : String) : ofString (a ++ b) = ofString a ++ ofString b := by
  rw [ofString, String.toList_append, List.map_append]
  rfl

end Text

namespace Memory

/-- What a module has under a name. -/
def moduleAttribute (m : Memory) (r : Ref) (name : String) : Option Ref :=
  ((m.object r).attributes.getD []).lookup name

end Memory

namespace Eval

variable {m : Memory} {r : Ref} {name title : String}

/-! ## Attributes of modules -/

/-- What is said where a module does not have a name. -/
def missingAttribute (title name : String) : String :=
  "module '" ++ title ++ "'" ++ " has no attribute '" ++ name ++ "'"

theorem class?_of_module (holds : m.Holds r .module (.module title)) : m.class? r = none := by
  cases r with
  | static s => cases s <;> cases holds.value
  | cell id => exact Memory.class?_of_value (by rw [holds.value]; nofun)

theorem findAttr_module (mach : Machine) (holds : m.Holds r .module (.module title))
    (plain : Builtin.module.definer? name = none) :
    (findAttr mach r name).run m = (.ok (m.moduleAttribute r name), m) := by
  -- a module has no names but those that are stored in it
  have implicit : isImplicit m r name = false := by
    simp only [isImplicit, holds.cls]
    rfl
  simp only [findAttr, run_memory_bind, class?_of_module holds, Option.isSome_none,
    Bool.false_eq_true, if_false]
  rw [run_special_bind, holds.special, plain]
  simp only [Option.map_none]
  rw [run_bind_ok (run_pure none m)]
  cases own : m.moduleAttribute r name with
  | none =>
    rw [run_ownAttr_bind own, run_valueOf_bind, holds.value]
    simp only [run_memory_bind, implicit, Bool.false_eq_true, if_false, run_pure]
  | some x =>
    have read : (ownAttr r name).run m = (.ok (some x), m) := by
      rw [Memory.moduleAttribute] at own
      simp only [ownAttr, run_memory_bind]
      cases attributes : (m.object r).attributes with
      | none =>
        rw [attributes] at own
        cases own
      | some l =>
        rw [attributes] at own
        simp only [run_pure]
        rw [show l.lookup name = some x from own]
    rw [run_bind_ok read, run_pure]

/-- What a module has is read as it is. -/
theorem getAttr_module (mach : Machine) (holds : m.Holds r .module (.module title))
    (plain : Builtin.module.definer? name = none) {x : Ref}
    (has : m.moduleAttribute r name = some x) : (getAttr mach r name).run m = (.ok x, m) := by
  simp only [getAttr]
  rw [run_special_bind, holds.special]
  rw [show Builtin.module.definer? "__getattr__" = none by decide]
  simp only [Option.map_none]
  rw [run_bind_ok (findAttr_module mach holds plain), has, run_pure]

/-- What a module does not have cannot be read. -/
theorem getAttr_module_missing (mach : Machine) (holds : m.Holds r .module (.module title))
    (plain : Builtin.module.definer? name = none) (lacks : m.moduleAttribute r name = none) :
    (getAttr mach r name).run m =
      (raise .attributeError (.ofString (missingAttribute title name)) : Eval Ref).run m := by
  simp only [getAttr]
  rw [run_special_bind, holds.special]
  rw [show Builtin.module.definer? "__getattr__" = none by decide]
  simp only [Option.map_none]
  rw [run_bind_ok (findAttr_module mach holds plain), lacks]
  simp only [noAttribute, run_memory_bind, class?_of_module holds, holds.value,
    missingAttribute, Text.ofString_append]

/-! ## Importing -/

theorem makeModule_grows {attributes : List (String × Ref)}
    (made : moduleAttributes name = pure attributes) (other : name ≠ "sys") (m : Memory) :
    ∃ t r n, (makeModule name).run m = (.ok r, n) ∧ m.Grows n ∧
      n.object r = ⟨Ref.ofBuiltin .module, .module (moduleTitle name),
        some (("__name__", t) :: attributes)⟩ := by
  obtain ⟨t, i, titled, grows, -, -⟩ := newText_grows (.ofString (moduleTitle name)) m
  let o : Object := ⟨Ref.ofBuiltin .module, .module (moduleTitle name),
    some (("__name__", t) :: attributes)⟩
  let n : Memory := { (i.alloc o).2 with modules := i.modules ++ [(name, (i.alloc o).1)] }
  have grows' : i.Grows n := by
    refine ⟨(Memory.Adds.alloc i o).trans (.of_cells rfl rfl), ⟨[(name, _)], rfl, ?_⟩, rfl⟩
    intro x hx
    cases List.mem_singleton.mp hx
    exact other
  refine ⟨t, (i.alloc o).1, n, ?_, grows.trans grows', i.object_alloc_new o⟩
  rw [makeModule, made, pure_bind, newString, run_bind_ok titled]
  rfl

/-- A module that has been imported is imported as it is, and any other one is made. -/
theorem import_grows {attributes : List (String × Ref)} (known : isModule name = true)
    (made : moduleAttributes name = pure attributes) (other : name ≠ "sys") (m : Memory) :
    ∃ r n, (do
        match (← importParts "" none [name]) with
        | some r => pure r
        | none => pure Ref.none : Eval Ref).run m = (.ok r, n) ∧ m.Grows n ∧
      (m.modules.lookup name = some r ∧ n = m ∨ m.modules.lookup name = none ∧
        ∃ t, n.object r = ⟨Ref.ofBuiltin .module, .module (moduleTitle name),
          some (("__name__", t) :: attributes)⟩) := by
  simp only [importParts, Option.isSome_none, Bool.false_eq_true, if_false]
  cases found : m.modules.lookup name with
  | some r =>
    refine ⟨r, m, ?_, .refl m, .inl ⟨rfl, rfl⟩⟩
    simp only [bind_assoc, run_memory_bind, found, pure_bind]
    rfl
  | none =>
    obtain ⟨t, r, n, new, grows, object⟩ := makeModule_grows made other m
    refine ⟨r, n, ?_, grows, .inr ⟨rfl, t, object⟩⟩
    simp only [bind_assoc, run_memory_bind, found, known, if_true]
    rw [run_bind_ok new]
    rfl

end Eval

end EmbeddedPython
