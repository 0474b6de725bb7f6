import EmbeddedPython.Object.Reference

/-
  Native functions

  The names of the functions that the built-in modules have.
-/

namespace EmbeddedPython

/-- The functions of the module of built-in names. -/
def builtinFunctions : List String := [
  "abs", "all", "any", "ascii", "bin", "callable", "chr", "delattr", "divmod", "format", "getattr",
  "hasattr", "hash", "hex", "id", "isinstance", "issubclass", "iter", "len", "max", "min", "next",
  "oct", "ord", "pow", "print", "repr", "round", "setattr", "sorted", "sum", "vars", "__import__"]

/-- The functions of the module of mathematics. -/
def mathFunctions : List String := [
  "sqrt", "floor", "ceil", "trunc", "fabs", "factorial", "gcd", "isnan", "isinf", "isfinite", "exp",
  "log", "log2", "log10", "pow", "sin", "cos", "tan", "atan", "atan2", "hypot", "copysign", "fmod",
  "degrees", "radians", "asin", "acos", "sinh", "cosh", "tanh", "exp2", "cbrt", "lcm", "isqrt",
  "comb"]

/-- The functions of the module of event loops. -/
def loopFunctions : List String := ["sleep", "get_running_loop", "current_task"]

/-- The object that a built-in name stands for. -/
def builtinNamed? (name : String) : Option Ref :=
  match name with
  | "NotImplemented" => some Ref.notImplemented
  | "Ellipsis" => some (.static .ellipsis)
  | _ =>
    if builtinFunctions.contains name then some (.static (.function "builtins" name))
    else (Builtin.ofName? name).map Ref.ofBuiltin

end EmbeddedPython
