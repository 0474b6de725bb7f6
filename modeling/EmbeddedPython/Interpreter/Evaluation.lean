import EmbeddedPython.Object.Evolution

/-
  Evaluation

  An evaluation works on the memory and ends with a value or with an exception
  object. Operations on objects may run code of the program, which may use
  every operation again: they take the operations of the next level down as a
  `Machine`, and `machine` ties the knot for a number of levels. An operation
  that has no levels left raises `RecursionError`.

  Whatever is evaluated, the memory evolves by the rules that functions, futures
  and loops keep; an evaluation carries the proof.
-/

namespace EmbeddedPython

/-- A computation on the memory that ends with a value or raises an exception object. -/
structure Eval (α : Type) where
  run : Memory → Except Ref α × Memory
  evolves : ∀ m : Memory, m.Evolves (run m).2

namespace Eval

variable {α β : Type}

instance : Inhabited (Eval α) := ⟨⟨fun m => (.error default, m), .refl⟩⟩

@[ext] theorem ext {a b : Eval α} (h : ∀ m : Memory, a.run m = b.run m) : a = b := by
  cases a
  cases b
  congr
  funext m
  exact h m

/-- Ends at once with a result. -/
@[inline] def done (result : Except Ref α) : Eval α where
  run m := (result, m)
  evolves := .refl

/-- Goes on with what an evaluation came to. -/
@[inline] def andThen (body : Eval α) (next : Except Ref α → Eval β) : Eval β where
  run m :=
    let (result, m) := body.run m
    (next result).run m
  evolves m := (body.evolves m).trans ((next _).evolves _)

instance : Monad Eval where
  pure a := done (.ok a)
  bind body next := body.andThen fun
    | .ok a => next a
    | .error e => done (.error e)

instance : MonadExcept Ref Eval where
  throw e := done (.error e)
  tryCatch body handler := body.andThen fun
    | .ok a => done (.ok a)
    | .error e => handler e

@[simp] theorem run_pure (a : α) (m : Memory) : (pure a : Eval α).run m = (.ok a, m) := rfl

@[simp] theorem run_throw (e : Ref) (m : Memory) :
    (throw e : Eval α).run m = (.error e, m) := rfl

theorem run_andThen (body : Eval α) (next : Except Ref α → Eval β) (m : Memory) :
    (body.andThen next).run m = (next (body.run m).1).run (body.run m).2 := rfl

theorem run_bind (body : Eval α) (next : α → Eval β) (m : Memory) :
    (body >>= next).run m =
      match body.run m with
      | (.ok a, n) => (next a).run n
      | (.error e, n) => (.error e, n) := by
  simp only [bind, run_andThen]
  rcases body.run m with ⟨_ | _, _⟩ <;> rfl

/-- An evaluation after one that is known to end with a value. -/
theorem run_bind_ok {body : Eval α} {m n : Memory} {a : α} (h : body.run m = (.ok a, n))
    (next : α → Eval β) : (body >>= next).run m = (next a).run n := by
  rw [run_bind, h]

theorem run_tryCatch (body : Eval α) (handler : Ref → Eval α) (m : Memory) :
    (tryCatch body handler).run m =
      match body.run m with
      | (.ok a, n) => (.ok a, n)
      | (.error e, n) => (handler e).run n := by
  simp only [tryCatch, run_andThen]
  rcases body.run m with ⟨_ | _, _⟩ <;> rfl

protected theorem map_id (body : Eval α) : id <$> body = body := by
  apply ext
  intro m
  show (body >>= fun a => pure a).run m = _
  rw [run_bind]
  rcases body.run m with ⟨_ | _, _⟩ <;> rfl

protected theorem bind_assoc {γ : Type} (body : Eval α) (f : α → Eval β) (g : β → Eval γ) :
    body >>= f >>= g = body >>= fun a => f a >>= g := by
  apply ext
  intro m
  simp only [run_bind]
  rcases body.run m with ⟨_ | a, n⟩ <;> rfl

instance : LawfulMonad Eval := .mk' Eval Eval.map_id (fun _ _ => rfl) Eval.bind_assoc

/-- The memory as it is. -/
def memory : Eval Memory where
  run m := (.ok m, m)
  evolves := .refl

/-- Changes the memory by its rules. -/
@[inline] def update (f : Memory → Memory) (evolves : ∀ m : Memory, m.Evolves (f m)) :
    Eval Unit where
  run m := (.ok (), f m)
  evolves m := evolves m

@[simp] theorem run_memory_bind (next : Memory → Eval β) (m : Memory) :
    (memory >>= next).run m = (next m).run m := rfl

@[simp] theorem run_update (f : Memory → Memory) (evolves : ∀ m : Memory, m.Evolves (f m))
    (m : Memory) : (update f evolves).run m = (.ok (), f m) := rfl

/-- Changes what the interpreter keeps beside the objects. -/
@[inline] def note (f : Memory → Memory) (cells : ∀ m : Memory, (f m).cells = m.cells)
    (customized : ∀ m : Memory, (f m).customized = m.customized) : Eval Unit :=
  update f fun m => .of_cells (cells m) fun _ h => (customized m).symm ▸ h

end Eval

/-- The operations of one level. -/
structure Machine where
  call : Ref → List Ref → List (Text × Ref) → Eval Ref
  repr : Ref → Eval Text
  str : Ref → Eval Text
  compare : Comparison → Ref → Ref → Eval Ref
  hash : Ref → Eval Int
  /-- the next item of an iterator -/
  advance : Ref → Eval (Option Ref)
  truth : Ref → Eval Bool

namespace Eval

def alloc (cls : Ref) (value : Value) (attributes : Option (List (String × Ref))) : Eval Ref where
  run m :=
    let (r, m) := m.alloc ⟨cls, value, attributes⟩
    (.ok r, m)
  evolves m := .alloc m _

/-- Makes an instance of a built-in class. -/
def make (c : Builtin) (value : Value) : Eval Ref :=
  alloc (Ref.ofBuiltin c) value (if c.hasAttributes then some [] else none)

def valueOf (r : Ref) : Eval Value := do pure ((← memory).valueOf r)

/-- Puts a value in the place of another one; neither is that of a function, a bound native method,
a future or a loop, and numbers, texts and tuples stay what they are. -/
def setValue (r : Ref) (v : Value) : Eval Unit := update (·.assign r v) (.assign · r v)

/-- Gives a function another name. -/
def rename (r : Ref) (name : String) : Eval Unit := update (·.rename r name) (.rename · r name)

/-- Puts other attributes in the place of those that an object keeps. -/
def putAttributes (r : Ref) (attributes : List (String × Ref)) : Eval Unit :=
  update (·.setAttributes r attributes) (.setAttributes · r attributes)

/-- Gives an object another class, which a program has made. -/
def putClass (r cls : Ref) : Eval Unit := update (·.setClass r cls) (.setClass · r cls)

def typeName (r : Ref) : Eval String := do pure ((← memory).typeName r)

def isKind (r : Ref) (c : Builtin) : Eval Bool := do pure ((← memory).isKind r c)

/-! Making values -/

def newInt (n : Int) : Eval Ref :=
  if -5 ≤ n ∧ n ≤ 256 then pure (.static (.smallInt n)) else make .int (.int n)

def newFloat (x : Float) : Eval Ref := make .float (.float x)

def newText (t : Text) : Eval Ref :=
  match t.points with
  | [] => pure (.static (.shortText t))
  | [c] => if c < 256 then pure (.static (.shortText t)) else make .str (.text t)
  | _ => make .str (.text t)

def newBytes (b : List UInt8) : Eval Ref :=
  if b.length < 2 then pure (.static (.shortBytes b)) else make .bytes (.bytes b)

def newTuple (items : List Ref) : Eval Ref :=
  if items.isEmpty then pure (.static .emptyTuple) else make .tuple (.tuple items)

def newList (items : List Ref) : Eval Ref := make .list (.list items)

def newBool (b : Bool) : Eval Ref := pure (Ref.ofBool b)

/-! Raising -/

/-- Makes an exception of a class with given arguments, without running code of the program. -/
def newException (c : ExceptionClass) (arguments : List Ref) : Eval Ref :=
  make (.exception c) (.exception arguments .nothing)

/-- Raises an exception with a text. -/
def raise {α : Type} (c : ExceptionClass) (text : Text) : Eval α := do
  let argument ← newText text
  let e ← newException c [argument]
  throw e

def typeError {α : Type} (text : String) : Eval α := raise .typeError text

def valueError {α : Type} (text : String) : Eval α := raise .valueError text

/-- Raises `KeyError` for a key. -/
def keyError {α : Type} (key : Ref) : Eval α := do
  let e ← newException .keyError [key]
  throw e

/-- Runs a computation, and on an exception of the given class another one. -/
def rescue {α : Type} (c : ExceptionClass) (body : Eval α) (handler : Ref → Eval α) : Eval α :=
  tryCatch body fun e => do
    if (← memory).isException e c then handler e else throw e

end Eval

/-- The texts of running out of levels, by what was being done. -/
def raiseTooDeep {α : Type} (doing : String) : Eval α :=
  Eval.raise .recursionError ("maximum recursion depth exceeded" ++ doing)

/-- The machine without any levels. -/
def Machine.exhausted : Machine where
  call _ _ _ := raiseTooDeep " while calling a Python object"
  repr _ := raiseTooDeep " while getting the repr of an object"
  str _ := raiseTooDeep " while getting the str of an object"
  compare _ _ _ := raiseTooDeep " in comparison"
  hash _ := raiseTooDeep ""
  advance _ := raiseTooDeep ""
  truth _ := raiseTooDeep ""

end EmbeddedPython
