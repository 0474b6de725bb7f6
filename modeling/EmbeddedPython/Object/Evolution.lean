import EmbeddedPython.Object.Memory

/-
  How the memory evolves

  Programs do what they like with most objects, but some things keep their own
  rules whatever program runs. A loop is told to stop or closed for good, its
  ready queue only grows, and it is not closed while it runs. A future is done
  once, and its callbacks are ready from then on. Functions stay what they are,
  and numbers, texts, tuples and bound methods never change. `Memory.Evolves`
  says so of two states of a memory.
-/

namespace EmbeddedPython

namespace Value

/-- Whether a value never changes. -/
def isFixed : Value → Bool
  | int _ | float _ | text _ | tuple _ | nativeMethod .. => true
  | _ => false

/-- Whether a value changes only by rules of its own. -/
def isGuarded : Value → Bool
  | function _ | nativeMethod .. | future _ | loop _ => true
  | _ => false

/-- Whether a value is that of a future or of a loop. -/
def isAsyncio : Value → Bool
  | future _ | loop _ => true
  | _ => false

end Value

/-- What a loop may become by what programs do. -/
structure Loop.Becomes (x y : Loop) : Prop where
  running : y.running = x.running
  stopping : x.stopping = true → y.stopping = true
  closed : x.closed = true → y.closed = true
  /-- a loop that runs is not closed -/
  kept : x.running = true → y.closed = x.closed
  ready : y.closed = true ∨ x.ready <+: y.ready

namespace Loop.Becomes

theorem refl (x : Loop) : x.Becomes x :=
  ⟨rfl, id, id, fun _ => rfl, .inr (List.prefix_refl _)⟩

theorem trans {x y z : Loop} (xy : x.Becomes y) (yz : y.Becomes z) : x.Becomes z where
  running := yz.running.trans xy.running
  stopping := yz.stopping ∘ xy.stopping
  closed := yz.closed ∘ xy.closed
  kept h := (yz.kept (xy.running ▸ h)).trans (xy.kept h)
  ready := by
    rcases xy.ready with hc | hxy
    · exact .inl (yz.closed hc)
    · exact yz.ready.imp id hxy.trans

theorem stop (x : Loop) : x.Becomes { x with stopping := true } :=
  ⟨rfl, fun _ => rfl, id, fun _ => rfl, .inr (List.prefix_refl _)⟩

theorem append (x : Loop) (entries : List Scheduled) :
    x.Becomes { x with ready := x.ready ++ entries } :=
  ⟨rfl, id, id, fun _ => rfl, .inr (List.prefix_append _ _)⟩

theorem write (x : Loop) (log : List String) : x.Becomes { x with log := log } :=
  ⟨rfl, id, id, fun _ => rfl, .inr (List.prefix_refl _)⟩

theorem close (x : Loop) :
    x.Becomes (if x.running then x else { x with closed := true, ready := [] }) := by
  split
  · exact refl x
  · next h => exact ⟨rfl, id, fun _ => rfl, fun hr => absurd hr h, .inl rfl⟩

end Loop.Becomes

/-- What a future may become by what programs do, its callbacks apart. -/
structure Future.Becomes (f g : Future) : Prop where
  loop : g.loop = f.loop
  removed : ∀ c ∈ f.removed, c ∈ g.removed
  /-- what it has come to is final -/
  final : f.outcome.isDone = true → g.outcome = f.outcome

namespace Future.Becomes

theorem done {f g : Future} (h : f.Becomes g) (hf : f.outcome.isDone = true) :
    g.outcome.isDone = true := by
  rw [h.final hf, hf]

theorem of_outcome {f g : Future} (loop : g.loop = f.loop) (removed : ∀ c ∈ f.removed, c ∈ g.removed)
    (outcome : g.outcome = f.outcome) : f.Becomes g :=
  ⟨loop, removed, fun _ => outcome⟩

theorem refl (f : Future) : f.Becomes f := of_outcome rfl (fun _ => id) rfl

theorem trans {f g h : Future} (fg : f.Becomes g) (gh : g.Becomes h) : f.Becomes h where
  loop := gh.loop.trans fg.loop
  removed c hc := gh.removed c (fg.removed c hc)
  final hf := (gh.final (fg.done hf)).trans (fg.final hf)

end Future.Becomes

/-- A future with a callback taken off, as often as it is there. -/
def Future.without (f : Future) (c : Callback) : Future :=
  { f with
    callbacks := f.callbacks.filter (· != c)
    removed := f.removed ++ f.callbacks.filter (· == c) }

/-- What a future may become while it stays done or not done. -/
structure Future.Amends (f g : Future) : Prop extends f.Becomes g where
  outcome : g.outcome = f.outcome
  callbacks : ∀ c ∈ f.callbacks, c ∈ g.callbacks ∨ c ∈ g.removed

namespace Future.Amends

theorem task (f : Future) (task : Option Task) : f.Amends { f with task := task } :=
  ⟨.of_outcome rfl (fun _ => id) rfl, rfl, fun _ => .inl⟩

theorem add (f : Future) (c : Callback) :
    f.Amends { f with callbacks := f.callbacks ++ [c] } :=
  ⟨.of_outcome rfl (fun _ => id) rfl, rfl, fun _ h => .inl (List.mem_append_left _ h)⟩

theorem remove (f : Future) (c : Callback) : f.Amends (f.without c) := by
  refine ⟨.of_outcome rfl (fun _ => List.mem_append_left _) rfl, rfl, fun d hd => ?_⟩
  by_cases h : d = c
  · exact .inr (List.mem_append_right _ (List.mem_filter.mpr ⟨hd, by simp [h]⟩))
  · exact .inl (List.mem_filter.mpr ⟨hd, by simp [h]⟩)

end Future.Amends

namespace Memory

/-- Whether a reference is to an object that has been made. -/
def Has (m : Memory) : Ref → Prop
  | .static _ => True
  | .cell id => id < m.cells.size

def IsLoop (m : Memory) (r : Ref) : Prop := ∃ x, m.valueOf r = .loop x

/-- Whether an object is one of a built-in class and no program has set attributes of it. -/
structure Genuine (m : Memory) (r : Ref) (c : Builtin) : Prop where
  cls : m.classOf r = Ref.ofBuiltin c
  attributes : (m.object r).attributes = some []
  untouched : r ∉ m.customized

/-- Whether an entry is in the ready queue of a loop, unless the loop has been closed. -/
def Due (m : Memory) (loop : Ref) (entry : Scheduled) : Prop :=
  ∀ x, m.valueOf loop = .loop x → x.closed = true ∨ entry ∈ x.ready

/-- What becomes of a callback of a pending future: it stays, a program takes it off, or the future
is done and the callback is ready. -/
def Keeps (m : Memory) (r : Ref) (f : Future) (c : Callback) : Prop :=
  f.outcome.isDone = false ∧ c ∈ f.callbacks ∨ c ∈ f.removed ∨
    f.outcome.isDone = true ∧ m.Due f.loop (c.entry r)

/-- What a memory may become, whatever programs run. -/
structure Evolves (m n : Memory) : Prop where
  size : m.cells.size ≤ n.cells.size
  customized : ∀ r ∈ m.customized, r ∈ n.customized
  fixed : ∀ {r : Ref} {v : Value}, m.valueOf r = v → v.isFixed = true → n.valueOf r = v
  /-- a function changes in its name at most -/
  function : ∀ {r : Ref} {f : Function}, m.valueOf r = .function f →
    ∃ name : String, n.valueOf r = .function { f with name := name }
  loop : ∀ {r : Ref} {x : Loop}, m.valueOf r = .loop x →
    ∃ y, n.valueOf r = .loop y ∧ x.Becomes y
  future : ∀ {r : Ref} {f : Future}, m.valueOf r = .future f →
    ∃ g, n.valueOf r = .future g ∧ f.Becomes g ∧
      (m.IsLoop f.loop → f.outcome.isDone = false → ∀ c ∈ f.callbacks, n.Keeps r g c)
  /-- no other object becomes a genuine future or a genuine loop -/
  genuine : ∀ {r : Ref} {c : Builtin}, m.Has r → (n.valueOf r).isAsyncio = true → n.Genuine r c →
    (m.valueOf r).isAsyncio = true ∧ m.Genuine r c

/-! ## Objects by reference -/

theorem Has.of_size_le {m n : Memory} (h : m.cells.size ≤ n.cells.size) {r : Ref} (hr : m.Has r) :
    n.Has r := by
  cases r with
  | static s => trivial
  | cell id => exact Nat.lt_of_lt_of_le hr h

theorem object_set_of_ne (m : Memory) {r s : Ref} (h : s ≠ r) (o : Object) :
    (m.set r o).object s = m.object s := by
  cases r with
  | static a => rfl
  | cell id =>
    cases s with
    | static a => rfl
    | cell k =>
      have hk : id ≠ k := fun hk => h (congrArg Ref.cell hk.symm)
      by_cases hlt : k < m.cells.size
      · simp [set, object, Array.getD, hlt, hk]
      · simp [set, object, Array.getD, hlt]

/-- Putting an object in the place of one that has not been made does nothing. -/
theorem object_set_self (m : Memory) (r : Ref) (o : Object) :
    (m.set r o).object r = o ∨ (m.set r o).cells = m.cells := by
  cases r with
  | static a => exact .inr rfl
  | cell id =>
    by_cases h : id < m.cells.size
    · exact .inl (by simp [set, object, Array.getD, h])
    · exact .inr (by simp [set, Array.setIfInBounds, h])

@[simp] theorem customized_set (m : Memory) (r : Ref) (o : Object) :
    (m.set r o).customized = m.customized := by
  cases r <;> rfl

theorem size_set (m : Memory) (r : Ref) (o : Object) :
    (m.set r o).cells.size = m.cells.size := by
  cases r <;> simp [set]

theorem object_congr {m n : Memory} (h : n.cells = m.cells) (s : Ref) : n.object s = m.object s := by
  cases s with
  | static a => rfl
  | cell id => simp only [object, h]

theorem object_of_not_has {m : Memory} {r : Ref} (h : ¬ m.Has r) :
    m.object r = Static.none.object := by
  cases r with
  | static s => exact absurd trivial h
  | cell id =>
    have hn : ¬ id < m.cells.size := h
    simp [object, Array.getD, hn]

/-- A reference to a value that is not plain is to an object that has been made. -/
theorem has_of_value {m : Memory} {r : Ref} (h : m.valueOf r ≠ .plain) : m.Has r := by
  refine Classical.byContradiction fun hn => h ?_
  rw [valueOf, object_of_not_has hn]
  rfl

theorem object_alloc {m : Memory} {r : Ref} (h : m.Has r) (o : Object) :
    (m.alloc o).2.object r = m.object r := by
  cases r with
  | static s => rfl
  | cell id =>
    have hlt : id < m.cells.size := h
    simp [alloc, object, Array.getD, hlt, Nat.lt_succ_of_lt hlt, Array.getElem_push_lt]

@[simp] theorem object_alloc_new (m : Memory) (o : Object) :
    (m.alloc o).2.object (m.alloc o).1 = o := by
  simp [alloc, object, Array.getD]

namespace Evolves

variable {m n : Memory}

theorem isLoop (h : m.Evolves n) {r : Ref} (hr : m.IsLoop r) : n.IsLoop r := by
  obtain ⟨x, hx⟩ := hr
  obtain ⟨y, hy, -⟩ := h.loop hx
  exact ⟨y, hy⟩

theorem method (h : m.Evolves n) {r : Ref} {owner : Builtin} {name : String} {self : Ref}
    (hm : m.valueOf r = .nativeMethod owner name self) :
    n.valueOf r = .nativeMethod owner name self :=
  h.fixed hm rfl

theorem has (h : m.Evolves n) {r : Ref} (hr : m.Has r) : n.Has r := hr.of_size_le h.size

theorem due (h : m.Evolves n) {loop : Ref} {entry : Scheduled} (hl : m.IsLoop loop)
    (hd : m.Due loop entry) : n.Due loop entry := by
  obtain ⟨x, hx⟩ := hl
  obtain ⟨y, hy, hxy⟩ := h.loop hx
  intro z hz
  rw [hy] at hz
  cases hz
  rcases hd x hx with hc | he
  · exact .inl (hxy.closed hc)
  · exact hxy.ready.imp id fun hp => hp.subset he

/-- Nothing happens to the objects. -/
theorem of_cells (cells : n.cells = m.cells)
    (customized : ∀ r ∈ m.customized, r ∈ n.customized) : m.Evolves n := by
  have same (r : Ref) : n.object r = m.object r := object_congr cells r
  have value (r : Ref) : n.valueOf r = m.valueOf r := by rw [valueOf, valueOf, same]
  refine ⟨Nat.le_of_eq (by rw [cells]), customized, fun h _ => (value _).trans h,
    fun h => ⟨_, (value _).trans h⟩, fun h => ⟨_, (value _).trans h, .refl _⟩,
    fun h => ⟨_, (value _).trans h, .refl _, fun _ hd c hc => .inl ⟨hd, hc⟩⟩,
    fun {r} c _ hv hg => ?_⟩
  rw [value] at hv
  refine ⟨hv, ?_, ?_, fun hm => hg.untouched (customized r hm)⟩
  · rw [classOf, ← same]
    exact hg.cls
  · rw [← same]
    exact hg.attributes

theorem refl (m : Memory) : m.Evolves m := of_cells rfl fun _ => id

theorem trans {k : Memory} (mn : m.Evolves n) (nk : n.Evolves k) : m.Evolves k where
  size := Nat.le_trans mn.size nk.size
  customized r hr := nk.customized r (mn.customized r hr)
  fixed h hv := nk.fixed (mn.fixed h hv) hv
  function h := by
    obtain ⟨a, ha⟩ := mn.function h
    obtain ⟨b, hb⟩ := nk.function ha
    exact ⟨b, hb⟩
  loop h := by
    obtain ⟨y, hy, hxy⟩ := mn.loop h
    obtain ⟨z, hz, hyz⟩ := nk.loop hy
    exact ⟨z, hz, hxy.trans hyz⟩
  future h := by
    obtain ⟨g, hg, hfg, kept⟩ := mn.future h
    obtain ⟨k, hk, hgk, kept'⟩ := nk.future hg
    refine ⟨k, hk, hfg.trans hgk, fun hl hp c hc => ?_⟩
    have hl' : n.IsLoop g.loop := hfg.loop ▸ mn.isLoop hl
    rcases kept hl hp c hc with ⟨hd, hc'⟩ | hc' | ⟨hd, hdue⟩
    · exact kept' hl' hd c hc'
    · exact .inr (.inl (hgk.removed c hc'))
    · exact .inr (.inr ⟨hgk.done hd, hgk.loop ▸ nk.due hl' hdue⟩)
  genuine hr hv hg := by
    obtain ⟨hv', hg'⟩ := nk.genuine (mn.has hr) hv hg
    exact mn.genuine hr hv' hg'

/-- An object is made. -/
theorem alloc (m : Memory) (o : Object) : m.Evolves (m.alloc o).2 := by
  have value {r : Ref} {v : Value} (h : m.valueOf r = v) (hv : v ≠ .plain) :
      (m.alloc o).2.valueOf r = v := by
    rw [valueOf, object_alloc (has_of_value (h ▸ hv))]
    exact h
  refine ⟨?_, fun r hr => hr, fun h hv => value h (by rintro rfl; cases hv),
    fun h => ⟨_, value h nofun⟩,
    fun h => ⟨_, value h nofun, .refl _⟩,
    fun h => ⟨_, value h nofun, .refl _, fun _ hd c hc => .inl ⟨hd, hc⟩⟩, fun hr hv hg => ?_⟩
  · simp [Memory.alloc]
  · have same := object_alloc hr o
    refine ⟨?_, ?_, ?_, hg.untouched⟩
    · rw [valueOf, ← same]
      exact hv
    · rw [classOf, ← same]
      exact hg.cls
    · rw [← same]
      exact hg.attributes

/-- One object becomes another one. -/
theorem of_set {r : Ref} {o : Object} (cells : n.cells = (m.set r o).cells)
    (customized : ∀ s ∈ m.customized, s ∈ n.customized)
    (fixed : (m.valueOf r).isFixed = true → o.value = m.valueOf r)
    (function : ∀ f, m.valueOf r = .function f → ∃ name : String,
      o.value = .function { f with name := name })
    (loop : ∀ x, m.valueOf r = .loop x → ∃ y, o.value = .loop y ∧ x.Becomes y)
    (future : ∀ f, m.valueOf r = .future f → ∃ g, o.value = .future g ∧ f.Becomes g ∧
      (m.IsLoop f.loop → f.outcome.isDone = false → ∀ c ∈ f.callbacks, n.Keeps r g c))
    (genuine : ∀ c, o.value.isAsyncio = true → o.cls = Ref.ofBuiltin c →
      o.attributes = some [] → r ∉ n.customized →
      (m.valueOf r).isAsyncio = true ∧ m.Genuine r c) : m.Evolves n := by
  by_cases same : (m.set r o).cells = m.cells
  · exact of_cells (cells.trans same) customized
  have self : n.object r = o :=
    (object_congr cells r).trans ((m.object_set_self r o).resolve_right same)
  have other {s : Ref} (h : s ≠ r) : n.object s = m.object s :=
    (object_congr cells s).trans (m.object_set_of_ne h o)
  refine ⟨Nat.le_of_eq (by rw [cells, size_set]), customized, fun {s} _ h hv => ?_, fun {s} _ h => ?_,
    fun {s} _ h => ?_, fun {s} f h => ?_, fun {s} c hs hv hg => ?_⟩ <;>
    by_cases hr : s = r
  · subst hr
    rw [valueOf, self, ← h]
    exact fixed (h.symm ▸ hv)
  · rw [valueOf, other hr]
    exact h
  · subst hr
    rw [valueOf, self]
    exact function _ h
  · rw [valueOf, other hr]
    exact ⟨_, h⟩
  · subst hr
    rw [valueOf, self]
    exact loop _ h
  · rw [valueOf, other hr]
    exact ⟨_, h, .refl _⟩
  · subst hr
    rw [valueOf, self]
    exact future f h
  · rw [valueOf, other hr]
    exact ⟨f, h, .refl f, fun _ hd c hc => .inl ⟨hd, hc⟩⟩
  · subst hr
    rw [valueOf, self] at hv
    obtain ⟨hc, ha, ht⟩ := hg
    rw [classOf, self] at hc
    rw [self] at ha
    exact genuine c hv hc ha ht
  · obtain ⟨hc, ha, ht⟩ := hg
    rw [valueOf, other hr] at hv
    rw [classOf, other hr] at hc
    rw [other hr] at ha
    exact ⟨hv, hc, ha, fun hm => ht (customized s hm)⟩

end Evolves

/-! ## What programs do to objects -/

/-- Puts a value in the place of another one, of which neither is guarded. One that is fixed stays. -/
def assign (m : Memory) (r : Ref) (v : Value) : Memory :=
  if (m.valueOf r).isFixed || (m.valueOf r).isGuarded || v.isGuarded then m else m.setValue r v

/-- Gives a function another name. -/
def rename (m : Memory) (r : Ref) (name : String) : Memory :=
  match m.valueOf r with
  | .function f => m.setValue r (.function { f with name := name })
  | _ => m

/-- Puts other attributes in the place of those that an object keeps. -/
def setAttributes (m : Memory) (r : Ref) (attributes : List (String × Ref)) : Memory :=
  let o := m.object r
  let changed := m.set r { o with attributes := some attributes }
  if o.value.isAsyncio then { changed with customized := r :: m.customized } else changed

/-- Gives an object another class, which a program has made. -/
def setClass (m : Memory) (r : Ref) : Ref → Memory
  | .static _ => m
  | .cell id => m.set r { m.object r with cls := .cell id }

def changeLoop (m : Memory) (r : Ref) (f : Loop → Loop) : Memory :=
  match m.valueOf r with
  | .loop x => m.setValue r (.loop (f x))
  | _ => m

def changeFuture (m : Memory) (r : Ref) (f : Future → Future) : Memory :=
  match m.valueOf r with
  | .future x => m.setValue r (.future (f x))
  | _ => m

/-- Puts entries into the ready queue of a loop that has not been closed. -/
def schedule (m : Memory) (loop : Ref) (entries : List Scheduled) : Memory :=
  m.changeLoop loop fun x => if x.closed then x else { x with ready := x.ready ++ entries }

/-- Gives a future that has none yet an outcome and schedules its callbacks. -/
def finish (m : Memory) (r : Ref) (outcome : FutureOutcome) : Memory :=
  match m.valueOf r with
  | .future f =>
    if f.outcome.isDone then m
    else (m.schedule f.loop (f.callbacks.map (·.entry r))).setValue r
      (.future { f with outcome := outcome, callbacks := [] })
  | _ => m

namespace Evolves

variable {m : Memory} {r : Ref}

theorem assign (m : Memory) (r : Ref) (v : Value) : m.Evolves (m.assign r v) := by
  simp only [Memory.assign]
  split
  · exact refl m
  next h =>
  simp only [Bool.or_eq_true, not_or, Bool.not_eq_true] at h
  obtain ⟨⟨hf, hm⟩, hv⟩ := h
  refine of_set rfl (fun s hs => (m.customized_set r _).symm ▸ hs) (fun fixed => ?_) ?_ ?_ ?_
    fun c hc => ?_
  · rw [fixed] at hf
    cases hf
  · intro f hx
    rw [hx] at hm
    cases hm
  · intro x hx
    rw [hx] at hm
    cases hm
  · intro f hx
    rw [hx] at hm
    cases hm
  · revert hc hv
    cases v <;> simp [Value.isGuarded, Value.isAsyncio]

theorem of_function {f : Function} (h : m.valueOf r = .function f) (name : String) :
    m.Evolves (m.setValue r (.function { f with name := name })) := by
  refine of_set rfl (fun s hs => (m.customized_set r _).symm ▸ hs) (fun hx => ?_)
    (fun g hg => ?_) (fun _ hx => ?_) (fun _ hx => ?_) fun c hv => Bool.noConfusion hv <;>
    rw [h] at *
  · cases hx
  · cases hg
    exact ⟨name, rfl⟩
  · cases hx
  · cases hx

theorem of_loop {x y : Loop} (h : m.valueOf r = .loop x) (hxy : x.Becomes y) :
    m.Evolves (m.setValue r (.loop y)) := by
  refine of_set rfl (fun s hs => (m.customized_set r _).symm ▸ hs) (fun hx => ?_)
    (fun _ hx => ?_) (fun z hz => ?_) (fun _ hx => ?_) fun c _ hc ha ht => ?_
  · rw [h] at hx
    cases hx
  · rw [h] at hx
    cases hx
  · rw [h] at hz
    cases hz
    exact ⟨y, rfl, hxy⟩
  · rw [h] at hx
    cases hx
  · exact ⟨by rw [h]; rfl, hc, ha, (m.customized_set r _) ▸ ht⟩

theorem of_future {f g : Future} (h : m.valueOf r = .future f) (hfg : f.Becomes g)
    (kept : m.IsLoop f.loop → f.outcome.isDone = false →
      ∀ c ∈ f.callbacks, (m.setValue r (.future g)).Keeps r g c) :
    m.Evolves (m.setValue r (.future g)) := by
  refine of_set rfl (fun s hs => (m.customized_set r _).symm ▸ hs) (fun hx => ?_)
    (fun _ hx => ?_) (fun _ hx => ?_) (fun k hk => ?_) fun c _ hc ha ht => ?_
  · rw [h] at hx
    cases hx
  · rw [h] at hx
    cases hx
  · rw [h] at hx
    cases hx
  · rw [h] at hk
    cases hk
    exact ⟨g, rfl, hfg, kept⟩
  · exact ⟨by rw [h]; rfl, hc, ha, (m.customized_set r _) ▸ ht⟩

theorem rename (m : Memory) (r : Ref) (name : String) : m.Evolves (m.rename r name) := by
  simp only [Memory.rename]
  split
  next f h => exact of_function h name
  next => exact refl m

theorem changeLoop {f : Loop → Loop} (m : Memory) (r : Ref) (hf : ∀ x : Loop, x.Becomes (f x)) :
    m.Evolves (m.changeLoop r f) := by
  simp only [Memory.changeLoop]
  split
  next x h => exact of_loop h (hf x)
  next => exact refl m

theorem changeFuture {f : Future → Future} (m : Memory) (r : Ref)
    (hf : ∀ x : Future, x.Amends (f x)) : m.Evolves (m.changeFuture r f) := by
  simp only [Memory.changeFuture]
  split
  next x h =>
    refine of_future h (hf x).toBecomes fun _ hd c hc => ?_
    rcases (hf x).callbacks c hc with hc' | hc'
    · exact .inl ⟨by rw [(hf x).outcome, hd], hc'⟩
    · exact .inr (.inl hc')
  next => exact refl m

theorem setAttributes (m : Memory) (r : Ref) (attributes : List (String × Ref)) :
    m.Evolves (m.setAttributes r attributes) := by
  have same (f : Future) (n : Memory) : f.Becomes f ∧ (m.IsLoop f.loop → f.outcome.isDone = false →
      ∀ c ∈ f.callbacks, n.Keeps r f c) :=
    ⟨.refl f, fun _ hd c hc => .inl ⟨hd, hc⟩⟩
  simp only [Memory.setAttributes]
  split
  · refine of_set (r := r) (o := { m.object r with attributes := some attributes }) rfl
      (fun _ => List.mem_cons_of_mem r) (fun _ => rfl) (fun f h => ⟨f.name, h⟩)
      (fun x h => ⟨x, h, .refl x⟩) (fun f h => ⟨f, h, same f _⟩) fun c _ _ _ ht => ?_
    exact absurd List.mem_cons_self ht
  next hv =>
    refine of_set (r := r) (o := { m.object r with attributes := some attributes }) rfl
      (fun s hs => (m.customized_set r _).symm ▸ hs) (fun _ => rfl) (fun f h => ⟨f.name, h⟩)
      (fun x h => ⟨x, h, .refl x⟩) (fun f h => ⟨f, h, same f _⟩) fun c ha => absurd ha hv

theorem setClass (m : Memory) (r cls : Ref) : m.Evolves (m.setClass r cls) := by
  cases cls with
  | static s => exact refl m
  | cell id =>
    exact of_set (r := r) (o := { m.object r with cls := .cell id }) rfl
      (fun s hs => (m.customized_set r _).symm ▸ hs) (fun _ => rfl) (fun f h => ⟨f.name, h⟩)
      (fun x h => ⟨x, h, .refl x⟩) (fun f h => ⟨f, h, .refl f, fun _ hd c hc => .inl ⟨hd, hc⟩⟩)
      fun c _ hc => nomatch hc

theorem schedule (m : Memory) (loop : Ref) (entries : List Scheduled) :
    m.Evolves (m.schedule loop entries) := by
  have grows (x : Loop) :
      x.Becomes (if x.closed then x else { x with ready := x.ready ++ entries }) := by
    split
    · exact .refl x
    · exact .append x entries
  exact changeLoop m loop grows

end Evolves

theorem valueOf_setValue_of_ne {m : Memory} {r s : Ref} (h : s ≠ r) (v : Value) :
    (m.setValue r v).valueOf s = m.valueOf s := by
  rw [valueOf, setValue, object_set_of_ne m h, ← valueOf]

theorem valueOf_setValue {m : Memory} {r : Ref} (h : m.valueOf r ≠ .plain) (hs : ∀ s, r ≠ .static s)
    (v : Value) : (m.setValue r v).valueOf r = v := by
  cases r with
  | static s => exact absurd rfl (hs s)
  | cell id =>
    have hlt : id < m.cells.size := has_of_value h
    simp [setValue, set, valueOf, object, Array.getD, hlt]

theorem valueOf_changeLoop {m : Memory} {r : Ref} {x : Loop} (h : m.valueOf r = .loop x)
    (f : Loop → Loop) : (m.changeLoop r f).valueOf r = .loop (f x) := by
  simp only [changeLoop, h]
  refine valueOf_setValue (by rw [h]; nofun) (fun s hs => ?_) _
  subst hs
  cases s <;> cases h

theorem valueOf_changeLoop_of_ne {m : Memory} {r s : Ref} (h : s ≠ r) (f : Loop → Loop) :
    (m.changeLoop r f).valueOf s = m.valueOf s := by
  simp only [changeLoop]
  split
  · exact valueOf_setValue_of_ne h _
  · rfl

theorem valueOf_changeFuture (m : Memory) {r : Ref} {x : Future} (h : m.valueOf r = .future x)
    (f : Future → Future) : (m.changeFuture r f).valueOf r = .future (f x) := by
  simp only [changeFuture, h]
  refine valueOf_setValue (by rw [h]; nofun) (fun s hs => ?_) _
  subst hs
  cases s <;> cases h

/-- What is scheduled is due. -/
theorem due_schedule (m : Memory) (loop : Ref) {entries : List Scheduled} {e : Scheduled}
    (h : e ∈ entries) : (m.schedule loop entries).Due loop e := by
  intro y hy
  by_cases hl : m.IsLoop loop
  · obtain ⟨x, hx⟩ := hl
    rw [schedule, valueOf_changeLoop hx] at hy
    cases hy
    cases hc : x.closed
    · exact .inr (by simp [h])
    · exact .inl (by simp [hc])
  · have same : (m.schedule loop entries).valueOf loop = m.valueOf loop := by
      simp only [schedule, changeLoop]
      split
      next x hx => exact absurd ⟨x, hx⟩ hl
      next => rfl
    exact absurd ⟨y, same ▸ hy⟩ hl

/-- A future that is done has its callbacks ready. -/
theorem Evolves.finish (m : Memory) (r : Ref) {outcome : FutureOutcome}
    (done : outcome.isDone = true) : m.Evolves (m.finish r outcome) := by
  simp only [Memory.finish]
  split
  next f h =>
    by_cases final : f.outcome.isDone = true
    · rw [if_pos final]
      exact .refl m
    rw [if_neg final]
    let n := m.schedule f.loop (f.callbacks.map (·.entry r))
    have mn : m.Evolves n := .schedule m _ _
    have hn : n.valueOf r = .future f := by
      by_cases hr : r = f.loop
      · have same : n = m := by simp [n, Memory.schedule, Memory.changeLoop, ← hr, h]
        rw [same, h]
      · exact (valueOf_changeLoop_of_ne hr _).trans h
    show m.Evolves (n.setValue r _)
    refine mn.trans (.of_future hn ⟨rfl, fun _ => id, fun hd => absurd hd final⟩
      fun hl _ c hc => ?_)
    refine .inr (.inr ⟨done, fun y hy => ?_⟩)
    have hr : f.loop ≠ r := by
      intro hr
      obtain ⟨x, hx⟩ := hl
      rw [hr, hn] at hx
      cases hx
    rw [valueOf_setValue_of_ne hr] at hy
    exact due_schedule m f.loop (List.mem_map_of_mem hc) y hy
  next => exact .refl m

end Memory

end EmbeddedPython
