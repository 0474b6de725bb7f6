import EmbeddedPython.Object.ExceptionClass

/-
  The built-in classes

  The classes that exist without any program having made them, each with its
  name and its line of ancestors. `sample` is the common base of the probe
  objects that the embedding is exercised with.
-/

namespace EmbeddedPython

/-- What a built-in iterator runs over. -/
inductive IteratorKind where
  | list | reversedList | tuple | text | bytes | bytearray | dictKeys | dictValues | dictItems
  | set | range | sequence | callable
  deriving DecidableEq, Repr, Inhabited

/-- A built-in class. -/
inductive Builtin where
  | object | type | none | notImplemented | ellipsis | bool | int | float | str | bytes
  | bytearray | tuple | list | dict | set | frozenset | range | slice | function | method
  | nativeFunction | nativeMethod | module | property | generator | zip | map | filter
  | enumerate | reversed | iterator (kind : IteratorKind) | dictKeys | dictValues | dictItems
  | coroutine | asyncGenerator | asyncGeneratorStep | future | task | eventLoop | sample | alias
  | exception (c : ExceptionClass)
  deriving DecidableEq, Repr, Inhabited

namespace IteratorKind

def className : IteratorKind → String
  | list => "list_iterator"
  | reversedList => "list_reverseiterator"
  | tuple => "tuple_iterator"
  | text => "str_iterator"
  | bytes => "bytes_iterator"
  | bytearray => "bytearray_iterator"
  | dictKeys => "dict_keyiterator"
  | dictValues => "dict_valueiterator"
  | dictItems => "dict_itemiterator"
  | set => "set_iterator"
  | range => "range_iterator"
  | sequence => "iterator"
  | callable => "callable_iterator"

end IteratorKind

namespace Builtin

/-- The name of a class. -/
def name : Builtin → String
  | object => "object"
  | type => "type"
  | none => "NoneType"
  | notImplemented => "NotImplementedType"
  | ellipsis => "ellipsis"
  | bool => "bool"
  | int => "int"
  | float => "float"
  | str => "str"
  | bytes => "bytes"
  | bytearray => "bytearray"
  | tuple => "tuple"
  | list => "list"
  | dict => "dict"
  | set => "set"
  | frozenset => "frozenset"
  | range => "range"
  | slice => "slice"
  | function => "function"
  | method => "method"
  | nativeFunction => "builtin_function_or_method"
  | nativeMethod => "method_descriptor"
  | module => "module"
  | property => "property"
  | generator => "generator"
  | zip => "zip"
  | map => "map"
  | filter => "filter"
  | enumerate => "enumerate"
  | reversed => "reversed"
  | iterator kind => kind.className
  | dictKeys => "dict_keys"
  | dictValues => "dict_values"
  | dictItems => "dict_items"
  | coroutine => "coroutine"
  | asyncGenerator => "async_generator"
  | asyncGeneratorStep => "async_generator_asend"
  | future => "Future"
  | task => "Task"
  | eventLoop => "_UnixSelectorEventLoop"
  | sample => "Base"
  | .alias => "GenericAlias"
  | exception c => c.name

/-- The module of a class, if it is not that of the built-in names. -/
def moduleName? : Builtin → Option String
  | future | task => some "_asyncio"
  | eventLoop => some "asyncio.unix_events"
  | exception .cancelledError | exception .invalidStateError => some "asyncio.exceptions"
  | sample => some "orc"
  | .alias => some "types"
  | _ => Option.none

/-- The ancestors of a class, nearest first. -/
def ancestors : Builtin → List Builtin
  | object => []
  | bool => [int, object]
  | task => [future, object]
  | exception c => c.ancestors.map exception ++ [object]
  | _ => [object]

/-- A class and its ancestors. -/
def lineage (c : Builtin) : List Builtin := c :: c.ancestors

/-- Whether a class is another one or descends from it. -/
def isSubclassOf (c d : Builtin) : Bool := c.lineage.contains d

/-- The classes that programs find by name, the exceptions apart. -/
def named : List Builtin := [
  object, type, bool, int, float, str, bytes, bytearray, tuple, list, dict, set, frozenset, range,
  slice, property, zip, map, filter, enumerate, reversed]

/-- The class of a name. -/
def ofName? (s : String) : Option Builtin :=
  match named.find? (·.name == s) with
  | some c => some c
  | Option.none => (ExceptionClass.ofName? s).map exception

/-- The classes that no class can be derived from. -/
def isFinal : Builtin → Bool
  | bool | none | notImplemented | ellipsis | range | slice | function | method | nativeFunction
  | nativeMethod | generator | iterator _ | dictKeys | dictValues | dictItems | coroutine
  | asyncGenerator | asyncGeneratorStep => true
  | _ => false

/-- The classes that can be given parameters. -/
def isGeneric : Builtin → Bool
  | list | tuple | dict | set | frozenset | type | enumerate => true
  | _ => false

/-- Whether instances keep attributes of their own. -/
def hasAttributes : Builtin → Bool
  | exception _ | function | module | sample | future | task | eventLoop => true
  | _ => false

end Builtin

end EmbeddedPython
