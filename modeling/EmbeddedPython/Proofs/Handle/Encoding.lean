import EmbeddedPython.Handle.Conversion
import EmbeddedPython.Proofs.Host.Returning
import EmbeddedPython.Proofs.Host.Status
import EmbeddedPython.Proofs.Interpreter.Holding

/-
  How values are encoded

  An object encodes a value of a type if it is what the conversion makes of it:
  an instance of the built-in class that stands for the type, with the value in
  it. A list comes before its items, so that filling it changes none of them.
  Converting a value makes an object that encodes it, and changes no object that
  was there before.
-/

namespace EmbeddedPython

/-! ## Values of types -/

namespace HostType

/-- Which values a type has. A list has no more items than there is room for, and than an index can
count. -/
def Contains : HostType → HostValue → Prop
  | int64, .int n => Eval.minIndex ≤ n ∧ n ≤ Eval.maxIndex
  | int32, .int n => -2147483648 ≤ n ∧ n ≤ 2147483647
  | float, .float _ | truth, .truth _ | text, .text _ | unit, .unit | option _, .none => True
  | option t, .some v => t.Contains v
  | list t, .list items => (∀ v ∈ items, t.Contains v) ∧
      items.length * t.width ≤ greatestSize ∧ (items.length : Int) ≤ Eval.maxIndex
  | _, _ => False

end HostType

/-! ## Objects that encode values -/

namespace Memory

/-- Whether an object encodes a value of a type, in cells from a given one on. -/
def Encodes (m : Memory) : HostType → Nat → Ref → HostValue → Prop
  | .int64, low, r, .int n | .int32, low, r, .int n => r.Above low ∧ m.Holds r .int (.int n)
  | .float, low, r, .float x => r.Above low ∧ m.Holds r .float (.float x)
  | .truth, _, r, .truth b => r = Ref.ofBool b
  | .text, low, r, .text s => r.Above low ∧ m.Holds r .str (.text (Text.ofString s))
  | .unit, _, r, .unit | .option _, _, r, .none => r = Ref.none
  | .option t, low, r, .some v => m.Encodes t low r v
  | .list t, low, r, .list items => ∃ id refs, r = .cell id ∧ low ≤ id ∧
      m.Holds r .list (.list refs) ∧ List.Forall₂ (m.Encodes t (id + 1)) refs items
  | _, _, _, _ => False

variable {m n : Memory}

/-- What encodes a value goes on to encode it, whatever happens to the cells before. -/
theorem Encodes.agrees {t : HostType} {low : Nat} {r : Ref} {v : HostValue}
    (h : m.Encodes t low r v) (agrees : Agrees low m n) : n.Encodes t low r v := by
  induction t generalizing low r v with
  | list t ih =>
    cases v with
    | list items =>
      obtain ⟨id, refs, rfl, above, holds, each⟩ := h
      refine ⟨id, refs, rfl, above, holds.agrees (by rintro ⟨⟩) above agrees, ?_⟩
      exact each.imp fun _ _ item => ih item (agrees.mono (by omega))
    | _ => exact h
  | option t ih =>
    cases v with
    | some v => exact ih h agrees
    | _ => exact h
  | _ =>
    cases v with
    | _ => first | exact h | exact ⟨h.1, h.2.agrees (by rintro ⟨⟩) h.1 agrees⟩

/-- What encodes a value in cells from one on does so in cells from an earlier one on. -/
theorem Encodes.mono {t : HostType} {low high : Nat} {r : Ref} {v : HostValue} (le : low ≤ high)
    (h : m.Encodes t high r v) : m.Encodes t low r v := by
  have above {r : Ref} (h : r.Above high) : r.Above low := by
    cases r with
    | static s => trivial
    | cell id => exact Nat.le_trans le h
  induction t generalizing r v with
  | list t _ =>
    cases v with
    | list items =>
      obtain ⟨id, refs, rfl, first, rest⟩ := h
      exact ⟨id, refs, rfl, Nat.le_trans le first, rest⟩
    | _ => exact h
  | option t ih =>
    cases v with
    | some v => exact ih h
    | _ => exact h
  | _ =>
    cases v with
    | _ => first | exact h | exact ⟨above h.1, h.2⟩

end Memory

/-! ## Making the objects -/

namespace HostValue

open Op (Returns)

/-- Whether converting a value comes to an object that encodes it, and all objects stay as they
are. -/
def Converts (t : HostType) (v : HostValue) : Prop :=
  ∀ m : Memory, ∃ r n, Returns v.toHandle m (Handle.adopt r) n ∧ m.Adds n ∧
    n.Encodes t m.cells.size r v

theorem converts_of_makes {t : HostType} {v : HostValue} {f : Eval Ref} {c : Builtin}
    {value : Value} (made : v.toHandle = Op.guarded (Op.request [] f)) (makes : f.Makes c value)
    (encodes : ∀ {low : Nat} {r : Ref} {n : Memory}, r.Above low → n.Holds r c value →
      n.Encodes t low r v) : Converts t v := by
  intro m
  obtain ⟨r, n, run, adds, above, holds⟩ := makes m
  refine ⟨r, n, ?_, adds, encodes above holds⟩
  rw [made]
  exact .guarded (.request [] run)

theorem append_returns {m : Memory} {id : Nat} {refs : List Ref} (item : Ref)
    (holds : m.Holds (.cell id) .list (.list refs)) :
    Returns (Op.askDone [.cell id, item] (do
        match (← Eval.valueOf (.cell id)) with
        | .list items => Eval.setValue (.cell id) (.list (items ++ [item]))
        | _ => pure ())) m () (m.setValue (.cell id) (.list (refs ++ [item]))) := by
  rw [Op.askDone_eq]
  refine (Returns.enter _ ?_).bind (.pure () _)
  simp only [Eval.valueOf, bind_assoc, pure_bind, Eval.run_memory_bind, holds.value]
  rw [Eval.setValue, Eval.run_update, Memory.assign, holds.value]
  rfl

/-- Each object is appended as soon as it is made, so that the list changes while they are. -/
theorem appendAll_returns {t : HostType} {items : List HostValue}
    (converts : ∀ v ∈ items, Converts t v) {m : Memory} {id : Nat} {refs : List Ref}
    (holds : m.Holds (.cell id) .list (.list refs)) :
    ∃ others n, Returns (appendAll (Handle.adopt (.cell id)) items) m () n ∧
      Memory.Refills id m n ∧ n.Holds (.cell id) .list (.list (refs ++ others)) ∧
      List.Forall₂ (n.Encodes t (id + 1)) others items := by
  induction items generalizing m refs with
  | nil =>
    refine ⟨[], m, ?_, .of_adds (.of_cells rfl rfl), ?_, .nil⟩
    · rw [appendAll]
      exact .pure () m
    · rw [List.append_nil]
      exact holds
  | cons v rest ih =>
    have has : id < m.cells.size := holds.has (by rintro ⟨⟩)
    obtain ⟨item, i, made, adds, encodes⟩ := converts v List.mem_cons_self m
    have held : i.Holds (.cell id) .list (.list refs) :=
      holds.agrees (by rintro ⟨⟩) (Nat.le_refl id) fun _ hr => adds.object hr
    obtain ⟨others, n, filled, refills, complete, each⟩ :=
      ih (fun w hw => converts w (List.mem_cons_of_mem v hw))
        (held.setValue (w := .list (refs ++ [item])) (by rintro ⟨⟩))
    have refills' := (Memory.Refills.setValue i id (.list (refs ++ [item]))).trans refills
    refine ⟨item :: others, n, ?_, .trans (.of_adds adds) refills', ?_, .cons ?_ each⟩
    · rw [appendAll]
      exact made.bind ((Handle.spend_returns (append_returns item held)).bind filled)
    · rw [List.append_cons]
      exact complete
    · exact (encodes.mono has).agrees refills'.agrees

theorem list_converts {t : HostType} {items : List HostValue}
    (converts : ∀ v ∈ items, Converts t v) : Converts (.list t) (.list items) := by
  intro m
  let list : Object := ⟨Ref.ofBuiltin .list, .list [], Option.none⟩
  have made : (Eval.newList []).run m = (.ok (.cell m.cells.size), (m.alloc list).2) := rfl
  have holds : (m.alloc list).2.Holds (.cell m.cells.size) .list (.list []) :=
    ⟨congrArg Object.cls (m.object_alloc_new list), congrArg Object.value (m.object_alloc_new list)⟩
  obtain ⟨refs, n, filled, refills, complete, each⟩ := appendAll_returns converts holds
  refine ⟨.cell m.cells.size, n, ?_, refills.adds (.alloc m list) (Nat.lt_irrefl _), ?_⟩
  · rw [toHandle]
    exact .guarded ((Returns.request [] made).bind ((filled.onFailure _).bind (.pure _ n)))
  · exact ⟨m.cells.size, refs, rfl, Nat.le_refl _, complete, each⟩

theorem toHandle_converts {t : HostType} {v : HostValue} (typed : t.Contains v) : Converts t v := by
  induction t generalizing v with
  | int64 | int32 =>
    cases v with
    | int n =>
      refine converts_of_makes (by rw [toHandle]) (Eval.newInt_makes n) fun above holds => ?_
      exact ⟨above, holds⟩
    | _ => cases typed
  | float =>
    cases v with
    | float x =>
      refine converts_of_makes (by rw [toHandle, Eval.newFloat]) (Eval.make_makes .float _) ?_
      exact fun above holds => ⟨above, holds⟩
    | _ => cases typed
  | truth =>
    cases v with
    | truth b =>
      refine fun m => ⟨Ref.ofBool b, m, ?_, .of_cells rfl rfl, rfl⟩
      rw [toHandle]
      exact .pure _ m
    | _ => cases typed
  | text =>
    cases v with
    | text s =>
      refine converts_of_makes (by rw [toHandle, Eval.newString]) (Eval.newText_makes _) ?_
      exact fun above holds => ⟨above, holds⟩
    | _ => cases typed
  | unit =>
    cases v with
    | unit =>
      refine fun m => ⟨Ref.none, m, ?_, .of_cells rfl rfl, rfl⟩
      rw [toHandle]
      exact .pure _ m
    | _ => cases typed
  | handle => cases v <;> cases typed
  | option t ih =>
    cases v with
    | none =>
      refine fun m => ⟨Ref.none, m, ?_, .of_cells rfl rfl, rfl⟩
      rw [toHandle]
      exact .pure _ m
    | some v =>
      intro m
      obtain ⟨r, n, returns, adds, encodes⟩ := ih typed m
      refine ⟨r, n, ?_, adds, encodes⟩
      rw [toHandle]
      exact returns
    | _ => cases typed
  | list t ih =>
    cases v with
    | list items => exact list_converts fun v hv => ih (typed.1 v hv)
    | _ => cases typed

end HostValue

end EmbeddedPython
