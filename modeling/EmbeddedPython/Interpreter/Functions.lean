import EmbeddedPython.Interpreter.Methods

/-
  Native functions

  The functions of the built-in names and of mathematics.
-/

namespace EmbeddedPython

namespace Eval

/-- The one argument of a function. -/
def soleArgument (name : String) (arguments : List Ref) : Eval Ref := do
  match arguments with
  | [a] => pure a
  | _ => typeError (name ++ "() takes exactly one argument (" ++ toString arguments.length
      ++ " given)")

/-- Whether an object is an instance of a class, or of one of a tuple of classes. -/
def isInstanceOf (what : String) (test : Ref → Eval Bool) (cls : Ref) : Eval Bool := do
  let classes := match (← valueOf cls) with
    | .tuple items => items
    | _ => [cls]
  let memory ← memory
  if classes.all fun c => (memory.class? c).isSome then classes.anyM test
  else typeError (what ++ "() arg 2 must be a type, a tuple of types, or a union")

/-- The greatest or least of objects. -/
def extreme (m : Machine) (op : Comparison) (key : Option Ref) : List Ref → Eval (Option Ref)
  | [] => pure none
  | first :: rest => do
    let keyed := fun (r : Ref) => match key with
      | none | some (.static .none) => pure r
      | some f => m.call f [r] []
    let best ← rest.foldlM (fun (best : Ref × Ref) r => do
      let k ← keyed r
      if ← truth m (← m.compare op k best.1) then pure (k, r) else pure best) (← keyed first, first)
    pure (some best.2)

/-- The function of greatest or least objects. -/
def extremeOf (m : Machine) (name : String) (arguments : List Ref) (keywords : List (Text × Ref)) :
    Eval Ref := do
  let op : Comparison := if name == "max" then .gt else .lt
  let named := fun (n : String) => (keywords.find? fun k => k.1 == Text.ofString n).map (·.2)
  match keywords.find? fun k => k.1 != Text.ofString "key" && k.1 != Text.ofString "default" with
  | some k =>
    raise .typeError (("'" : Text) ++ k.1 ++ ("' is an invalid keyword argument for "
      ++ name ++ "()"))
  | none =>
    match arguments with
    | [] => typeError (name ++ " expected at least 1 argument, got 0")
    | [r] => do
      match (← extreme m op (named "key") (← iterate m r)), named "default" with
      | some best, _ => pure best
      | none, some d => pure d
      | none, none => valueError (name ++ "() arg is an empty sequence")
    | items =>
      if (named "default").isSome then
        typeError ("Cannot specify a default for " ++ name ++ "() with multiple positional arguments")
      else do pure ((← extreme m op (named "key") items).getD Ref.none)

/-- The numeral of an integer with its prefix. -/
def basedNumeral (m : Machine) (base : Nat) (start : String) (r : Ref) : Eval Ref := do
  let n ← index m r
  newString ((if n < 0 then "-" else "") ++ start ++ Text.numeral base n.natAbs)

/-- A power modulo a number. -/
def powMod (base : Int) (modulus : Nat) : Nat → Nat → Int
  | 0, _ => 1 % modulus
  | _, 0 => 1 % modulus
  | fuel + 1, n =>
    let half := powMod base modulus fuel (n / 2)
    let square := half * half % modulus
    if n % 2 = 1 then square * base % modulus else square

/-- The code point of a text of one character, or the value of one byte. -/
def ordinal (r : Ref) : Eval Ref := do
  match (← valueOf r) with
  | .text ⟨[c]⟩ => newInt c
  | .bytes [b] => newInt b.toNat
  | .text t =>
    typeError ("ord() expected a character, but string of length " ++ toString t.length ++ " found")
  | .bytes b =>
    typeError ("ord() expected a character, but string of length " ++ toString b.length ++ " found")
  | _ => typeError ("ord() expected string of length 1, but " ++ (← typeName r) ++ " found")

/-- The name that an attribute function was given. -/
def attributeName (what : String) (r : Ref) : Eval String := do
  match (← valueOf r) with
  | .text t => pure t.toStringLossy
  | _ => typeError (what ++ "(): attribute name must be string")

/-- Prints objects: a text goes to the standard output of the interpreter. -/
def printed (m : Machine) (arguments : List Ref) (keywords : List (Text × Ref)) : Eval Ref := do
  let option := fun (name default : String) => do
    match keywords.find? fun k => k.1 == Text.ofString name with
    | none | some (_, .static .none) => pure (Text.ofString default)
    | some (_, r) =>
      match (← valueOf r) with
      | .text t => pure t
      | _ => typeError (name ++ " must be None or a string, not " ++ (← typeName r))
  match keywords.find? fun k =>
      !(["sep", "end", "file", "flush"].any fun n => Text.ofString n == k.1) with
  | some k =>
    raise .typeError (("'" : Text) ++ k.1 ++ "' is an invalid keyword argument for print()")
  | none =>
    let separator ← option "sep" " "
    let final ← option "end" "\n"
    let shown ← arguments.mapM m.str
    note (fun s => { s with
      printed := s.printed ++ (Text.intercalate separator shown ++ final).toStringLossy })
      (fun _ => rfl) fun _ => rfl
    match keywords.find? fun k => k.1 == Text.ofString "flush" with
    | none => pure Ref.none
    | some (_, wanted) => do
      if ← truth m wanted then
        note (fun s => { s with output := s.output ++ s.printed, printed := "" }) (fun _ => rfl)
          fun _ => rfl
      pure Ref.none

/-- The attributes of an object as a dictionary. -/
def varsOf (r : Ref) : Eval Ref := do
  match ((← memory).object r).attributes with
  | some attributes => do
    let entries ← attributes.mapM fun (a : String × Ref) => do
      pure (Entry.mk (Hash.ofText a.1) (← newString a.1) a.2)
    make .dict (.dict entries)
  | none => typeError "vars() argument must have __dict__ attribute"

/-- A function of the built-in names, `__import__` apart. -/
def builtinFunction (m : Machine) (name : String) (arguments : List Ref)
    (keywords : List (Text × Ref)) : Eval Ref := do
  if !keywords.isEmpty
      && !(["print", "sorted", "max", "min", "sum", "pow", "round"].contains name) then
    noKeywords name keywords
  match name with
  | "abs" => do absolute m (← soleArgument name arguments)
  | "all" => do newBool (← (← iterate m (← soleArgument name arguments)).allM (truth m))
  | "any" => do newBool (← (← iterate m (← soleArgument name arguments)).anyM (truth m))
  | "ascii" => do newText (asciiOf (← m.repr (← soleArgument name arguments)))
  | "bin" => do basedNumeral m 2 "0b" (← soleArgument name arguments)
  | "oct" => do basedNumeral m 8 "0o" (← soleArgument name arguments)
  | "hex" => do basedNumeral m 16 "0x" (← soleArgument name arguments)
  | "callable" => do
    let r ← soleArgument name arguments
    newBool (((← memory).class? r).isSome || (← special r "__call__").isSome)
  | "chr" => do
    let n ← index m (← soleArgument name arguments)
    if n < 0 ∨ 0x10FFFF < n then valueError "chr() arg not in range(0x110000)"
    else newText ⟨[n.toNat]⟩
  | "ord" => do ordinal (← soleArgument name arguments)
  | "repr" => do newText (← m.repr (← soleArgument name arguments))
  | "hash" => do newInt (← m.hash (← soleArgument name arguments))
  | "id" => do newInt (identityHash (← soleArgument name arguments))
  | "len" => do newInt (← length m (← soleArgument name arguments))
  | "divmod" => do
    checkCount name 2 2 arguments.length
    match arguments with
    | [a, b] => do
      let numbers := match (← valueOf a), (← valueOf b) with
        | .int _, .int _ | .int _, .float _ | .float _, .int _ | .float _, .float _ => true
        | _, _ => false
      if !numbers then unsupported "divmod()" a b
      else
        newTuple [← binary m (formatPercent m) .floorDiv a b,
          ← binary m (formatPercent m) .mod a b]
    | _ => pure Ref.none
  | "pow" => do
    match (← fillNamed "pow" ["base", "exp", "mod"] arguments keywords) with
    | [some a, some b, none] | [some a, some b, some (.static .none)] =>
      binary m (formatPercent m) .pow a b
    | [some a, some b, some c] => do
      match (← valueOf a), (← valueOf b), (← valueOf c) with
      | .int x, .int y, .int z =>
        if z = 0 then valueError "pow() 3rd argument cannot be 0"
        else
          let inverse := (List.range z.natAbs).find? fun (i : Nat) => Int.emod (x * i) z.natAbs = 1 % z.natAbs
          match (if y < 0 then inverse.map Int.ofNat else some x) with
          | none => valueError "base is not invertible for the given modulus"
          | some x =>
            let r := powMod x z.natAbs (Nat.log2 y.natAbs + 2) y.natAbs
            let r := Int.emod r z.natAbs
            newInt (if z < 0 ∧ r ≠ 0 then r + z else r)
      | _, _, _ =>
        typeError ("unsupported operand type(s) for ** or pow(): '" ++ (← typeName a) ++ "', '"
          ++ (← typeName b) ++ "', '" ++ (← typeName c) ++ "'")
    | none :: _ => typeError "pow() missing required argument 'base' (pos 1)"
    | _ => typeError "pow() missing required argument 'exp' (pos 2)"
  | "round" => do
    match (← fillNamed "round" ["number", "ndigits"] arguments keywords) with
    | some r :: digits :: _ => rounded m r digits
    | _ => typeError "round() missing required argument 'number' (pos 1)"
  | "sum" => do
    match (← fillNamed "sum" ["iterable", "start"] arguments keywords) with
    | some r :: start :: _ => do
      let start := start.getD (.static (.smallInt 0))
      match (← valueOf start) with
      | .text _ => typeError "sum() can't sum strings [use ''.join(seq) instead]"
      | _ => (← iterate m r).foldlM (fun acc x => binary m (formatPercent m) .add acc x) start
    | _ => typeError "sum() takes at least 1 positional argument (0 given)"
  | "max" | "min" => extremeOf m name arguments keywords
  | "sorted" => do
    match arguments with
    | [r] => do
      let (key, backwards) ← sortOptions m "sort" keywords
      newList (← sortedItems m (← iterate m r) key backwards)
    | _ => expected "sorted" "" 1 arguments.length
  | "iter" => do
    checkCount name 1 2 arguments.length
    match arguments with
    | [r] => iterator m r
    | f :: sentinel :: _ => do
      if ((← memory).class? f).isSome || (← special f "__call__").isSome then
        make (.iterator .callable) (.cursor (.callable f sentinel))
      else typeError "iter(v, w): v must be callable"
    | [] => pure Ref.none
  | "next" => do
    checkCount name 1 2 arguments.length
    match arguments with
    | it :: rest => do
      if (← special it "__next__").isNone then
        typeError ("'" ++ (← typeName it) ++ "' object is not an iterator")
      else
        match (← m.advance it), rest with
        | some r, _ => pure r
        | none, d :: _ => pure d
        | none, [] => throw (← newException .stopIteration [])
    | [] => pure Ref.none
  | "isinstance" => do
    checkCount name 2 2 arguments.length
    match arguments with
    | [r, cls] => do
      let memory ← memory
      newBool (← isInstanceOf name (fun c => pure (memory.isInstance r c)) cls)
    | _ => pure Ref.none
  | "issubclass" => do
    checkCount name 2 2 arguments.length
    match arguments with
    | [r, cls] => do
      let memory ← memory
      if (memory.class? r).isNone then typeError "issubclass() arg 1 must be a class"
      else
        newBool (← isInstanceOf name (fun c => pure (memory.isSubclass r c)) cls)
    | _ => pure Ref.none
  | "getattr" => do
    checkCount name 2 3 arguments.length
    match arguments with
    | [r, n] => do getAttr m r (← attributeName "getattr" n)
    | [r, n, d] => do pure ((← getAttr? m r (← attributeName "getattr" n)).getD d)
    | _ => pure Ref.none
  | "hasattr" => do
    checkCount name 2 2 arguments.length
    match arguments with
    | [r, n] => do newBool (← getAttr? m r (← attributeName "hasattr" n)).isSome
    | _ => pure Ref.none
  | "setattr" => do
    checkCount name 3 3 arguments.length
    match arguments with
    | [r, n, value] => do
      setAttr m r (← attributeName "setattr" n) value
      pure Ref.none
    | _ => pure Ref.none
  | "delattr" => do
    checkCount name 2 2 arguments.length
    match arguments with
    | [r, n] => do
      deleteAttr r (← attributeName "delattr" n)
      pure Ref.none
    | _ => pure Ref.none
  | "format" => do
    checkCount name 1 2 arguments.length
    match arguments with
    | [r] => do newText (← formatObject m r Text.empty)
    | r :: s :: _ => do newText (← formatObject m r (← textArgument "format" "2" s))
    | [] => pure Ref.none
  | "vars" => do
    checkCount name 0 1 arguments.length
    varsOf (← soleArgument name arguments)
  | "print" => printed m arguments keywords
  | _ => typeError (name ++ "() is not available")

/-! Mathematics -/

def domainError {α : Type} : Eval α := valueError "math domain error"

/-- A function of one double; what is no number must come from what is none. -/
def realFunction (f : Float → Float) (x : Float) : Eval Ref := do
  let y := f x
  if y.isNaN && !x.isNaN then domainError
  else if y.isInf && x.isFinite then raise .overflowError "math range error"
  else newFloat y

/-- The largest number with so many binary digits whose square is at most `n`. -/
def squareRoot (n : Nat) : Nat → Nat
  | 0 => 0
  | digits + 1 =>
    let high := 2 * squareRoot (n / 4) digits
    if (high + 1) * (high + 1) ≤ n then high + 1 else high

def factorialOf (n : Nat) : Nat := (List.range n).foldl (fun acc i => acc * (i + 1)) 1

/-- The integer that a double is rounded to in one direction. -/
def integerPart (m : Machine) (name : String) (round : Float → Float) (r : Ref) : Eval Ref := do
  match (← special r ("__" ++ name ++ "__")), (← valueOf r) with
  | some (.member f), _ => callMember m f r []
  | _, .int n => newInt n
  | _, _ => do newInt (← truncated (round (← realNumber m r)))

/-- A function of mathematics. -/
def mathFunction (m : Machine) (name : String) (arguments : List Ref)
    (keywords : List (Text × Ref)) : Eval Ref := do
  noKeywords ("math." ++ name) keywords
  let one := soleArgument ("math." ++ name) arguments
  let real := do realNumber m (← one)
  let two := do
    checkCount name 2 2 arguments.length
    match arguments with
    | [a, b] => do pure (← realNumber m a, ← realNumber m b)
    | _ => pure (0.0, 0.0)
  match name with
  | "sqrt" => do realFunction Float.sqrt (← real)
  | "fabs" => do newFloat (Float.abs (← real))
  | "floor" => do integerPart m "floor" Float.floor (← one)
  | "ceil" => do integerPart m "ceil" Float.ceil (← one)
  | "trunc" => do
    let r ← one
    match (← valueOf r), (← special r "__trunc__") with
    | .int _, _ | .float _, _ | _, some _ => integerPart m "trunc" (fun x => x) r
    | _, none => typeError ("type " ++ (← typeName r) ++ " doesn't define __trunc__ method")
  | "factorial" => do
    let n ← index m (← one)
    if n < 0 then valueError "factorial() not defined for negative values"
    else newInt (factorialOf n.toNat)
  | "gcd" => do
    let ns ← arguments.mapM (index m)
    newInt (ns.foldl (fun (g : Nat) n => Nat.gcd g n.natAbs) 0 : Nat)
  | "isnan" => do newBool (← real).isNaN
  | "isinf" => do newBool (← real).isInf
  | "isfinite" => do newBool (← real).isFinite
  | "exp" => do realFunction Float.exp (← real)
  | "log" => do
    if arguments.isEmpty || 2 < arguments.length then
      typeError "math.log requires 1 to 2 arguments"
    match arguments with
    | [a] => do
      let x ← realNumber m a
      if x == 0.0 then domainError else realFunction Float.log x
    | a :: b :: _ => do
      let x ← realNumber m a
      let y ← realNumber m b
      if x <= 0.0 || y <= 0.0 then domainError
      else newFloat (Float.log x / Float.log y)
    | [] => pure Ref.none
  | "log2" => do
    let x ← real
    if x == 0.0 then domainError else realFunction Float.log2 x
  | "log10" => do
    let x ← real
    if x == 0.0 then domainError else realFunction Float.log10 x
  | "sin" => do realFunction Float.sin (← real)
  | "cos" => do realFunction Float.cos (← real)
  | "tan" => do realFunction Float.tan (← real)
  | "atan" => do realFunction Float.atan (← real)
  | "asin" => do realFunction Float.asin (← real)
  | "acos" => do realFunction Float.acos (← real)
  | "sinh" => do realFunction Float.sinh (← real)
  | "cosh" => do realFunction Float.cosh (← real)
  | "tanh" => do realFunction Float.tanh (← real)
  | "exp2" => do realFunction Float.exp2 (← real)
  | "cbrt" => do realFunction Float.cbrt (← real)
  | "degrees" => do newFloat ((← real) * (180.0 / 3.141592653589793))
  | "radians" => do newFloat ((← real) * (3.141592653589793 / 180.0))
  | "pow" => do
    let (x, y) ← two
    newFloat (Float.pow x y)
  | "atan2" => do
    let (x, y) ← two
    newFloat (Float.atan2 x y)
  | "hypot" => do
    let xs ← arguments.mapM (realNumber m)
    newFloat (Float.sqrt (xs.foldl (fun acc x => acc + x * x) 0.0))
  | "lcm" => do
    let ns ← arguments.mapM (index m)
    newInt (ns.foldl (fun (l : Nat) n => Nat.lcm l n.natAbs) 1 : Nat)
  | "isqrt" => do
    let n ← index m (← one)
    if n < 0 then valueError "isqrt() argument must be nonnegative"
    else newInt (squareRoot n.toNat (Nat.log2 n.toNat / 2 + 1) : Nat)
  | "comb" => do
    checkCount name 2 2 arguments.length
    let ns ← arguments.mapM (index m)
    match ns with
    | [n, k] =>
      if n < 0 then valueError "n must be a non-negative integer"
      else if k < 0 then valueError "k must be a non-negative integer"
      else newInt (if n < k then 0
        else (factorialOf n.toNat / (factorialOf k.toNat * factorialOf (n - k).toNat) : Nat))
    | _ => pure Ref.none
  | "fmod" => do
    let (x, y) ← two
    if y == 0.0 then domainError
    else
      let r := floatMod x y
      newFloat (if r != 0.0 && (x < 0.0) != (r < 0.0) then r - y else r)
  | "copysign" => do
    let (x, y) ← two
    newFloat (if (Binary64.parts x).1 == (Binary64.parts y).1 then x else -x)
  | _ => typeError (name ++ "() is not available")

/-- A function of the module of event loops. -/
def loopFunction (name : String) : Eval Ref := do
  match name with
  | "get_running_loop" => do
    match (← memory).runningLoop with
    | some r => pure r
    | none => raise .runtimeError "no running event loop"
  | "current_task" => do pure ((← memory).currentTask.getD Ref.none)
  | _ => typeError (name ++ "() is not available")

end Eval

end EmbeddedPython
