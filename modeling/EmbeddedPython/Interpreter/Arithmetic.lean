import EmbeddedPython.Interpreter.Representation

/-
  Operators

  Numbers are computed with exactly, and rounded once where the result is a
  double. Sequences are joined and repeated, sets combined. An operator is
  offered to the class of the left operand, then to that of the right one, in
  the other order if the right one is of a derived class.
-/

namespace EmbeddedPython

open EmbeddedPython.Language (BinaryOperator UnaryOperator)

namespace Eval

/-- The double nearest to an integer. -/
def floatOfInt (n : Int) : Eval Float :=
  match Binary64.ofInt? n with
  | some x => pure x
  | none => raise .overflowError "int too large to convert to float"

def zeroDivision {α : Type} (text : String) : Eval α := raise .zeroDivisionError text

/-- How many bits a power or a shift may have. -/
def bitBound : Nat := 20000000

def tooLarge {α : Type} : Eval α := raise .memoryError Text.empty

/-- The remainder of doubles, with the sign of the divisor. -/
def floatMod (x y : Float) : Float :=
  match Binary64.toRatio? x, Binary64.toRatio? y with
  | some (sx, nx, dx), some (sy, ny, dy) =>
    -- over a common denominator the remainder is one of naturals
    let rest := (nx * dy) % (ny * dx)
    if rest = 0 then (if sy then -0.0 else 0.0)
    else
      let r := (Binary64.ofRatio? sx rest (dx * dy)).getD x
      if sx == sy then r else r + y
  | some (sx, nx, _), none =>
    if y == y then
      if nx = 0 then (if y < 0.0 then -0.0 else 0.0)
      else if sx == decide (y < 0.0) then x else y
    else y
  | none, _ => 0.0 / 0.0

/-- The floored quotient of doubles. -/
def floatFloorDiv (x y : Float) : Float :=
  match Binary64.toRatio? x, Binary64.toRatio? y with
  | some (sx, nx, dx), some (sy, ny, dy) =>
    let num := nx * dy
    let den := ny * dx
    if sx == sy then (Binary64.ofRatio? false (num / den) 1).getD (x / y).floor
    else
      let q := (num + den - 1) / den
      if q = 0 then -0.0 else (Binary64.ofRatio? true q 1).getD (x / y).floor
  | _, _ => (x / y).floor

/-- A power of doubles. -/
def floatPow (x y : Float) : Eval Float := do
  if y == 0.0 ∨ x == 1.0 then pure 1.0
  else if x == 0.0 ∧ y < 0.0 then
    zeroDivision "0.0 cannot be raised to a negative power"
  else
    let result := Float.pow x y
    if x.isFinite && y.isFinite && result.isInf then
      raise .overflowError "(34, 'Numerical result out of range')"
    else pure result

/-- An operator on doubles; `none` where doubles have none. -/
def floatOp (op : BinaryOperator) (x y : Float) : Eval (Option Ref) := do
  let answer := fun (z : Float) => do pure (some (← newFloat z))
  match op with
  | .add => answer (x + y)
  | .sub => answer (x - y)
  | .mul => answer (x * y)
  | .div => if y == 0.0 then zeroDivision "float division by zero" else answer (x / y)
  | .floorDiv =>
    if y == 0.0 then zeroDivision "float floor division by zero" else answer (floatFloorDiv x y)
  | .mod => if y == 0.0 then zeroDivision "float modulo" else answer (floatMod x y)
  | .pow => do answer (← floatPow x y)
  | _ => pure none

/-- Both integers bit by bit, as infinite two's complements. -/
def bitwise (f : Bool → Bool → Bool) (a b : Int) : Int :=
  let width := (max (Nat.log2 a.natAbs) (Nat.log2 b.natAbs)) + 2
  let modulus : Int := Int.pow 2 width
  let x := (a % modulus).toNat
  let y := (b % modulus).toNat
  let bits := (List.range width).foldl (fun (acc : Nat) i =>
    if f (x.testBit i) (y.testBit i) then acc + Nat.pow 2 i else acc) 0
  if bits < Nat.pow 2 (width - 1) then bits else (bits : Int) - modulus

/-- An operator on integers; `none` where integers have none. -/
def intOp (op : BinaryOperator) (a b : Int) : Eval (Option Ref) := do
  let answer := fun (n : Int) => do pure (some (← newInt n))
  match op with
  | .add => answer (a + b)
  | .sub => answer (a - b)
  | .mul => answer (a * b)
  | .div =>
    if b = 0 then zeroDivision "division by zero"
    else
      match Binary64.ofRatio? (decide (a < 0) != decide (b < 0)) a.natAbs b.natAbs with
      | some x => do pure (some (← newFloat x))
      | none => raise .overflowError "integer division result too large for a float"
  | .floorDiv =>
    if b = 0 then zeroDivision "integer division or modulo by zero" else answer (Int.fdiv a b)
  | .mod => if b = 0 then zeroDivision "integer modulo by zero" else answer (Int.fmod a b)
  | .pow =>
    if b < 0 then
      floatOp .pow (← floatOfInt a) (← floatOfInt b)
    else if 1 < a.natAbs && bitBound < b.toNat * (Nat.log2 a.natAbs + 1) then tooLarge
    else answer (Int.pow a b.toNat)
  | .lshift =>
    if b < 0 then valueError "negative shift count"
    else if a = 0 then answer 0
    else if (bitBound : Int) < b then tooLarge
    else answer (a * Int.pow 2 b.toNat)
  | .rshift =>
    if b < 0 then valueError "negative shift count"
    else if (bitBound : Int) < b then answer (if a < 0 then -1 else 0)
    else answer (Int.fdiv a (Int.pow 2 b.toNat))
  | .bitAnd => answer (bitwise (· && ·) a b)
  | .bitOr => answer (bitwise (· || ·) a b)
  | .bitXor => answer (bitwise (· != ·) a b)
  | .matMul => pure none

/-- Whether an operator on truth values gives a truth value. -/
def onTruth (op : BinaryOperator) (a b : Ref) : Option Bool :=
  match op, a, b with
  | .bitAnd, .static (.truth x), .static (.truth y) => some (x && y)
  | .bitOr, .static (.truth x), .static (.truth y) => some (x || y)
  | .bitXor, .static (.truth x), .static (.truth y) => some (x != y)
  | _, _, _ => none

/-- The class of the result of combining sets: that of the left one. -/
def newSet (frozen : Bool) (items : List (Int × Ref)) : Eval Ref :=
  make (if frozen then .frozenset else .set) (.set items)

/-- The items of the first set that are, or are not, in the second. -/
def filterItems (m : Machine) (wanted : Bool) (b : List (Int × Ref)) :
    List (Int × Ref) → Eval (List (Int × Ref))
  | [] => pure []
  | (h, r) :: rest => do
    let found ← findItem m h r b
    let rest ← filterItems m wanted b rest
    pure (if found.isSome == wanted then (h, r) :: rest else rest)

/-- Sets combined by an operator. -/
def setOp (m : Machine) (op : BinaryOperator) (a b : List (Int × Ref)) :
    Eval (Option (List (Int × Ref))) := do
  match op with
  | .bitAnd => do pure (some (← filterItems m true b a))
  | .bitOr => do pure (some (a ++ (← filterItems m false a b)))
  | .sub => do pure (some (← filterItems m false b a))
  | .bitXor => do pure (some ((← filterItems m false b a) ++ (← filterItems m false a b)))
  | _ => pure none

/-- An operator as the native classes answer it, sequences apart; `none` without an answer. -/
def numberOp (m : Machine) (op : BinaryOperator) (a b : Ref) : Eval (Option Ref) := do
  match onTruth op a b with
  | some t => pure (some (Ref.ofBool t))
  | none =>
    match (← valueOf a), (← valueOf b) with
    | .int x, .int y => intOp op x y
    | .float x, .float y => floatOp op x y
    | .int x, .float y => do floatOp op (← floatOfInt x) y
    | .float x, .int y => do floatOp op x (← floatOfInt y)
    | .set x, .set y => do
      match (← setOp m op x y) with
      | some items => do pure (some (← newSet (← isKind a .frozenset) items))
      | none => pure none
    | .dict x, .dict y =>
      if op = .bitOr then do
        let entries ← y.foldlM (fun acc e => withEntry m acc e.key e.value) x
        pure (some (← make .dict (.dict entries)))
      else pure none
    | _, _ => pure none

/-- A sequence joined with another object. -/
def concat (a b : Ref) : Eval (Option Ref) := do
  match (← valueOf a), (← valueOf b) with
  | .text s, .text t => do pure (some (← newText (s ++ t)))
  | .text _, _ =>
    typeError ("can only concatenate str (not \"" ++ (← typeName b) ++ "\") to str")
  | .list s, .list t => do pure (some (← newList (s ++ t)))
  | .list _, _ =>
    typeError ("can only concatenate list (not \"" ++ (← typeName b) ++ "\") to list")
  | .tuple s, .tuple t => do pure (some (← newTuple (s ++ t)))
  | .tuple _, _ =>
    typeError ("can only concatenate tuple (not \"" ++ (← typeName b) ++ "\") to tuple")
  | .bytes s, .bytes t => do
    if ← isKind a .bytearray then pure (some (← make .bytearray (.bytes (s ++ t))))
    else pure (some (← newBytes (s ++ t)))
  | .bytes _, _ => do
    typeError ("can't concat " ++ (← typeName b) ++ " to " ++ (← typeName a))
  | _, _ => pure none

/-- A list repeated. -/
def repeated {α : Type} (n : Int) (items : List α) : List α :=
  (List.replicate n.toNat items).flatten

/-- A sequence repeated; `none` for anything else. -/
def repeatSequence (m : Machine) (a b : Ref) : Eval (Option Ref) := do
  let v ← valueOf a
  let isSequence := match v with
    | .text _ | .list _ | .tuple _ | .bytes _ => true
    | _ => false
  if !isSequence then pure none
  else
    let counts ← match (← valueOf b) with
      | .int _ => pure true
      | _ => do pure (← special b "__index__").isSome
    if !counts then
      typeError ("can't multiply sequence by non-int of type '" ++ (← typeName b) ++ "'")
    else
      let n ← smallIndex m .overflowError b
      let size := match v with
        | .text t => t.length
        | .list items | .tuple items => items.length
        | .bytes s => s.length
        | _ => 0
      if (bitBound : Int) < n * (size : Int) then tooLarge
      else match v with
        | .text t => do pure (some (← newText ⟨repeated n t.points⟩))
        | .list items => do pure (some (← newList (repeated n items)))
        | .tuple items => do pure (some (← newTuple (repeated n items)))
        | .bytes s => do
          if ← isKind a .bytearray then pure (some (← make .bytearray (.bytes (repeated n s))))
          else pure (some (← newBytes (repeated n s)))
        | _ => pure none

/-- The spelling of an operator in errors. -/
def operatorName : BinaryOperator → String
  | .pow => "** or pow()"
  | op => op.spelling

def unsupported {α : Type} (op : String) (a b : Ref) : Eval α := do
  typeError ("unsupported operand type(s) for " ++ op ++ ": '" ++ (← typeName a) ++ "' and '"
    ++ (← typeName b) ++ "'")

/-- What a method of a program answers to an operator; `none` without a method or an answer. -/
def methodAnswer (m : Machine) (name : String) (a b : Ref) : Eval (Option Ref) := do
  match (← special a name) with
  | some (.member f) =>
    let r ← callMember m f a [b]
    pure (if r == Ref.notImplemented then none else some r)
  | _ => pure none

/-- The first answer of two. -/
def firstAnswer (a b : Eval (Option Ref)) : Eval (Option Ref) := do
  match (← a) with
  | some r => pure (some r)
  | none => b

/-- The value of an operator on two objects. `format` makes a text from a template. -/
def binary (m : Machine) (format : Text → Ref → Eval Text) (op : BinaryOperator) (a b : Ref) :
    Eval Ref := do
  let memory ← memory
  let derived := memory.classOf a != memory.classOf b
    && memory.isSubclass (memory.classOf b) (memory.classOf a)
  let left := methodAnswer m ("__" ++ op.stem ++ "__") a b
  let right := methodAnswer m ("__r" ++ op.stem ++ "__") b a
  let native := numberOp m op a b
  let answer ← firstAnswer (if derived then firstAnswer right left else left)
    (firstAnswer native (if derived then pure none else right))
  match answer with
  | some r => pure r
  | none =>
    match op, memory.valueOf a with
    | .mod, .text template => do newText (← format template b)
    | .add, _ =>
      match (← concat a b) with
      | some r => pure r
      | none => unsupported (operatorName op) a b
    | .mul, _ =>
      match (← repeatSequence m a b) with
      | some r => pure r
      | none =>
        match (← repeatSequence m b a) with
        | some r => pure r
        | none => unsupported (operatorName op) a b
    | _, _ => unsupported (operatorName op) a b

/-- The value of an operator that may change its left operand. -/
def augmented (m : Machine) (format : Text → Ref → Eval Text) (op : BinaryOperator) (a b : Ref) :
    Eval Ref := do
  match (← special a ("__i" ++ op.stem ++ "__")) with
  | some (.member f) =>
    let r ← callMember m f a [b]
    if r == Ref.notImplemented then binary m format op a b else pure r
  | _ =>
    match op, (← valueOf a) with
    | .add, .list items => do
      setValue a (.list (items ++ (← iterate m b)))
      pure a
    | _, _ =>
      let r ← binary m format op a b
      match op, (← valueOf a), (← valueOf r) with
      | .mul, .list _, .list items => do
        setValue a (.list items)
        pure a
      | _, .set _, .set items =>
        if ← isKind a .frozenset then pure r
        else do
          setValue a (.set items)
          pure a
      | _, .dict _, .dict entries => do
        setValue a (.dict entries)
        pure a
      | _, _, _ => pure r

/-- The value of an operator on one object. -/
def unary (m : Machine) (op : UnaryOperator) (a : Ref) : Eval Ref := do
  let (method, spelling) := match op with
    | .neg => ("__neg__", "-")
    | .pos => ("__pos__", "+")
    | .invert => ("__invert__", "~")
  match (← special a method) with
  | some (.member f) => callMember m f a []
  | _ =>
    match op, (← valueOf a) with
    | .neg, .int n => newInt (-n)
    | .pos, .int n => newInt n
    | .invert, .int n => newInt (-n - 1)
    | .neg, .float x => newFloat (-x)
    | .pos, .float x => newFloat x
    | _, _ => typeError ("bad operand type for unary " ++ spelling ++ ": '" ++ (← typeName a) ++ "'")

end Eval

end EmbeddedPython
