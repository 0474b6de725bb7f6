import EmbeddedPython.Object.Builtin

/-
  Members of the built-in classes

  The names that each built-in class defines itself; what it inherits is found
  in its ancestors.
-/

namespace EmbeddedPython

namespace ExceptionClass

/-- The members that an exception class defines itself. -/
def members : ExceptionClass → List String
  | baseException => [
    "__cause__", "__context__", "__delattr__", "__dict__", "__doc__", "__getattribute__",
    "__init__", "__new__", "__reduce__", "__repr__", "__setattr__", "__setstate__", "__str__",
    "__suppress_context__", "__traceback__", "add_note", "args", "with_traceback"]
  | attributeError => ["__doc__", "__init__", "__str__", "name", "obj"]
  | baseExceptionGroup => [
    "__class_getitem__", "__doc__", "__init__", "__new__", "__str__", "derive", "exceptions",
    "message", "split", "subgroup"]
  | exceptionGroup => ["__doc__", "__module__", "__weakref__"]
  | importError => ["__doc__", "__init__", "__reduce__", "__str__", "msg", "name", "path"]
  | keyError => ["__doc__", "__init__", "__str__"]
  | nameError => ["__doc__", "__init__", "__str__", "name"]
  | osError => [
    "__doc__", "__init__", "__new__", "__reduce__", "__str__", "characters_written", "errno",
    "filename", "filename2", "strerror"]
  | stopIteration => ["__doc__", "__init__", "value"]
  | syntaxError => [
    "__doc__", "__init__", "__str__", "end_lineno", "end_offset", "filename", "lineno", "msg",
    "offset", "print_file_and_line", "text"]
  | systemExit => ["__doc__", "__init__", "code"]
  | unicodeDecodeError | unicodeEncodeError | unicodeTranslateError => [
    "__doc__", "__init__", "__new__", "__str__", "encoding", "end", "object", "reason", "start"]
  | _ => ["__doc__", "__init__", "__new__"]

end ExceptionClass

namespace Builtin

/-- The members that a class defines itself. -/
def members : Builtin → List String
  | object => [
    "__class__", "__delattr__", "__dir__", "__doc__", "__eq__", "__format__", "__ge__",
    "__getattribute__", "__getstate__", "__gt__", "__hash__", "__init__", "__init_subclass__",
    "__le__", "__lt__", "__ne__", "__new__", "__reduce__", "__reduce_ex__", "__repr__",
    "__setattr__", "__sizeof__", "__str__", "__subclasshook__"]
  | type => [
    "__abstractmethods__", "__annotations__", "__base__", "__bases__", "__basicsize__", "__call__",
    "__delattr__", "__dict__", "__dictoffset__", "__dir__", "__doc__", "__flags__",
    "__getattribute__", "__init__", "__instancecheck__", "__itemsize__", "__module__", "__mro__",
    "__name__", "__new__", "__or__", "__prepare__", "__qualname__", "__repr__", "__ror__",
    "__setattr__", "__sizeof__", "__subclasscheck__", "__subclasses__", "__text_signature__",
    "__weakrefoffset__", "mro"]
  | none => ["__bool__", "__doc__", "__new__", "__repr__"]
  | notImplemented => ["__bool__", "__doc__", "__new__", "__reduce__", "__repr__"]
  | ellipsis => ["__doc__", "__getattribute__", "__new__", "__reduce__", "__repr__"]
  | bool => [
    "__and__", "__doc__", "__new__", "__or__", "__rand__", "__repr__", "__ror__", "__rxor__",
    "__xor__"]
  | int => [
    "__abs__", "__add__", "__and__", "__bool__", "__ceil__", "__divmod__", "__doc__", "__eq__",
    "__float__", "__floor__", "__floordiv__", "__format__", "__ge__", "__getattribute__",
    "__getnewargs__", "__gt__", "__hash__", "__index__", "__int__", "__invert__", "__le__",
    "__lshift__", "__lt__", "__mod__", "__mul__", "__ne__", "__neg__", "__new__", "__or__",
    "__pos__", "__pow__", "__radd__", "__rand__", "__rdivmod__", "__repr__", "__rfloordiv__",
    "__rlshift__", "__rmod__", "__rmul__", "__ror__", "__round__", "__rpow__", "__rrshift__",
    "__rshift__", "__rsub__", "__rtruediv__", "__rxor__", "__sizeof__", "__sub__", "__truediv__",
    "__trunc__", "__xor__", "as_integer_ratio", "bit_count", "bit_length", "conjugate",
    "denominator", "from_bytes", "imag", "numerator", "real", "to_bytes"]
  | float => [
    "__abs__", "__add__", "__bool__", "__ceil__", "__divmod__", "__doc__", "__eq__", "__float__",
    "__floor__", "__floordiv__", "__format__", "__ge__", "__getattribute__", "__getformat__",
    "__getnewargs__", "__gt__", "__hash__", "__int__", "__le__", "__lt__", "__mod__", "__mul__",
    "__ne__", "__neg__", "__new__", "__pos__", "__pow__", "__radd__", "__rdivmod__", "__repr__",
    "__rfloordiv__", "__rmod__", "__rmul__", "__round__", "__rpow__", "__rsub__", "__rtruediv__",
    "__sub__", "__truediv__", "__trunc__", "as_integer_ratio", "conjugate", "fromhex", "hex",
    "imag", "is_integer", "real"]
  | str => [
    "__add__", "__contains__", "__doc__", "__eq__", "__format__", "__ge__", "__getattribute__",
    "__getitem__", "__getnewargs__", "__gt__", "__hash__", "__iter__", "__le__", "__len__",
    "__lt__", "__mod__", "__mul__", "__ne__", "__new__", "__repr__", "__rmod__", "__rmul__",
    "__sizeof__", "__str__", "capitalize", "casefold", "center", "count", "encode", "endswith",
    "expandtabs", "find", "format", "format_map", "index", "isalnum", "isalpha", "isascii",
    "isdecimal", "isdigit", "isidentifier", "islower", "isnumeric", "isprintable", "isspace",
    "istitle", "isupper", "join", "ljust", "lower", "lstrip", "maketrans", "partition",
    "removeprefix", "removesuffix", "replace", "rfind", "rindex", "rjust", "rpartition", "rsplit",
    "rstrip", "split", "splitlines", "startswith", "strip", "swapcase", "title", "translate",
    "upper", "zfill"]
  | bytes => [
    "__add__", "__bytes__", "__contains__", "__doc__", "__eq__", "__ge__", "__getattribute__",
    "__getitem__", "__getnewargs__", "__gt__", "__hash__", "__iter__", "__le__", "__len__",
    "__lt__", "__mod__", "__mul__", "__ne__", "__new__", "__repr__", "__rmod__", "__rmul__",
    "__str__", "capitalize", "center", "count", "decode", "endswith", "expandtabs", "find",
    "fromhex", "hex", "index", "isalnum", "isalpha", "isascii", "isdigit", "islower", "isspace",
    "istitle", "isupper", "join", "ljust", "lower", "lstrip", "maketrans", "partition",
    "removeprefix", "removesuffix", "replace", "rfind", "rindex", "rjust", "rpartition", "rsplit",
    "rstrip", "split", "splitlines", "startswith", "strip", "swapcase", "title", "translate",
    "upper", "zfill"]
  | bytearray => [
    "__add__", "__alloc__", "__contains__", "__delitem__", "__doc__", "__eq__", "__ge__",
    "__getattribute__", "__getitem__", "__gt__", "__hash__", "__iadd__", "__imul__", "__init__",
    "__iter__", "__le__", "__len__", "__lt__", "__mod__", "__mul__", "__ne__", "__new__",
    "__reduce__", "__reduce_ex__", "__repr__", "__rmod__", "__rmul__", "__setitem__", "__sizeof__",
    "__str__", "append", "capitalize", "center", "clear", "copy", "count", "decode", "endswith",
    "expandtabs", "extend", "find", "fromhex", "hex", "index", "insert", "isalnum", "isalpha",
    "isascii", "isdigit", "islower", "isspace", "istitle", "isupper", "join", "ljust", "lower",
    "lstrip", "maketrans", "partition", "pop", "remove", "removeprefix", "removesuffix", "replace",
    "reverse", "rfind", "rindex", "rjust", "rpartition", "rsplit", "rstrip", "split", "splitlines",
    "startswith", "strip", "swapcase", "title", "translate", "upper", "zfill"]
  | tuple => [
    "__add__", "__class_getitem__", "__contains__", "__doc__", "__eq__", "__ge__",
    "__getattribute__", "__getitem__", "__getnewargs__", "__gt__", "__hash__", "__iter__", "__le__",
    "__len__", "__lt__", "__mul__", "__ne__", "__new__", "__repr__", "__rmul__", "count", "index"]
  | list => [
    "__add__", "__class_getitem__", "__contains__", "__delitem__", "__doc__", "__eq__", "__ge__",
    "__getattribute__", "__getitem__", "__gt__", "__hash__", "__iadd__", "__imul__", "__init__",
    "__iter__", "__le__", "__len__", "__lt__", "__mul__", "__ne__", "__new__", "__repr__",
    "__reversed__", "__rmul__", "__setitem__", "__sizeof__", "append", "clear", "copy", "count",
    "extend", "index", "insert", "pop", "remove", "reverse", "sort"]
  | dict => [
    "__class_getitem__", "__contains__", "__delitem__", "__doc__", "__eq__", "__ge__",
    "__getattribute__", "__getitem__", "__gt__", "__hash__", "__init__", "__ior__", "__iter__",
    "__le__", "__len__", "__lt__", "__ne__", "__new__", "__or__", "__repr__", "__reversed__",
    "__ror__", "__setitem__", "__sizeof__", "clear", "copy", "fromkeys", "get", "items", "keys",
    "pop", "popitem", "setdefault", "update", "values"]
  | set => [
    "__and__", "__class_getitem__", "__contains__", "__doc__", "__eq__", "__ge__",
    "__getattribute__", "__gt__", "__hash__", "__iand__", "__init__", "__ior__", "__isub__",
    "__iter__", "__ixor__", "__le__", "__len__", "__lt__", "__ne__", "__new__", "__or__",
    "__rand__", "__reduce__", "__repr__", "__ror__", "__rsub__", "__rxor__", "__sizeof__",
    "__sub__", "__xor__", "add", "clear", "copy", "difference", "difference_update", "discard",
    "intersection", "intersection_update", "isdisjoint", "issubset", "issuperset", "pop", "remove",
    "symmetric_difference", "symmetric_difference_update", "union", "update"]
  | frozenset => [
    "__and__", "__class_getitem__", "__contains__", "__doc__", "__eq__", "__ge__",
    "__getattribute__", "__gt__", "__hash__", "__iter__", "__le__", "__len__", "__lt__", "__ne__",
    "__new__", "__or__", "__rand__", "__reduce__", "__repr__", "__ror__", "__rsub__", "__rxor__",
    "__sizeof__", "__sub__", "__xor__", "copy", "difference", "intersection", "isdisjoint",
    "issubset", "issuperset", "symmetric_difference", "union"]
  | range => [
    "__bool__", "__contains__", "__doc__", "__eq__", "__ge__", "__getattribute__", "__getitem__",
    "__gt__", "__hash__", "__iter__", "__le__", "__len__", "__lt__", "__ne__", "__new__",
    "__reduce__", "__repr__", "__reversed__", "count", "index", "start", "step", "stop"]
  | slice => [
    "__doc__", "__eq__", "__ge__", "__getattribute__", "__gt__", "__hash__", "__le__", "__lt__",
    "__ne__", "__new__", "__reduce__", "__repr__", "indices", "start", "step", "stop"]
  | function => [
    "__annotations__", "__builtins__", "__call__", "__closure__", "__code__", "__defaults__",
    "__dict__", "__doc__", "__get__", "__globals__", "__kwdefaults__", "__module__", "__name__",
    "__new__", "__qualname__", "__repr__"]
  | method => [
    "__call__", "__delattr__", "__doc__", "__eq__", "__func__", "__ge__", "__getattribute__",
    "__gt__", "__hash__", "__le__", "__lt__", "__ne__", "__new__", "__reduce__", "__repr__",
    "__self__", "__setattr__"]
  | nativeFunction => [
    "__call__", "__doc__", "__eq__", "__ge__", "__getattribute__", "__gt__", "__hash__", "__le__",
    "__lt__", "__module__", "__name__", "__ne__", "__qualname__", "__reduce__", "__repr__",
    "__self__", "__text_signature__"]
  | nativeMethod => [
    "__call__", "__doc__", "__get__", "__getattribute__", "__name__", "__objclass__",
    "__qualname__", "__reduce__", "__repr__", "__text_signature__"]
  | module => [
    "__annotations__", "__delattr__", "__dict__", "__dir__", "__doc__", "__getattribute__",
    "__init__", "__new__", "__repr__", "__setattr__"]
  | property => [
    "__delete__", "__doc__", "__get__", "__getattribute__", "__init__", "__isabstractmethod__",
    "__new__", "__set__", "__set_name__", "deleter", "fdel", "fget", "fset", "getter", "setter"]
  | generator => [
    "__del__", "__doc__", "__getattribute__", "__iter__", "__name__", "__next__", "__qualname__",
    "__repr__", "__sizeof__", "close", "gi_code", "gi_frame", "gi_running", "gi_suspended",
    "gi_yieldfrom", "send", "throw"]
  | zip => [
    "__doc__", "__getattribute__", "__iter__", "__new__", "__next__", "__reduce__", "__setstate__"]
  | map => ["__doc__", "__getattribute__", "__iter__", "__new__", "__next__", "__reduce__"]
  | filter => ["__doc__", "__getattribute__", "__iter__", "__new__", "__next__", "__reduce__"]
  | enumerate => [
    "__class_getitem__", "__doc__", "__getattribute__", "__iter__", "__new__", "__next__",
    "__reduce__"]
  | reversed => [
    "__doc__", "__getattribute__", "__iter__", "__length_hint__", "__new__", "__next__",
    "__reduce__", "__setstate__"]
  | iterator _ => [
    "__doc__", "__getattribute__", "__iter__", "__length_hint__", "__next__", "__reduce__",
    "__setstate__"]
  | dictKeys => [
    "__and__", "__contains__", "__doc__", "__eq__", "__ge__", "__getattribute__", "__gt__",
    "__hash__", "__iter__", "__le__", "__len__", "__lt__", "__ne__", "__or__", "__rand__",
    "__repr__", "__reversed__", "__ror__", "__rsub__", "__rxor__", "__sub__", "__xor__",
    "isdisjoint", "mapping"]
  | dictValues => [
    "__doc__", "__getattribute__", "__iter__", "__len__", "__repr__", "__reversed__", "mapping"]
  | dictItems => [
    "__and__", "__contains__", "__doc__", "__eq__", "__ge__", "__getattribute__", "__gt__",
    "__hash__", "__iter__", "__le__", "__len__", "__lt__", "__ne__", "__or__", "__rand__",
    "__repr__", "__reversed__", "__ror__", "__rsub__", "__rxor__", "__sub__", "__xor__",
    "isdisjoint", "mapping"]
  | coroutine => [
    "__await__", "__del__", "__doc__", "__getattribute__", "__name__", "__qualname__", "__repr__",
    "__sizeof__", "close", "cr_await", "cr_code", "cr_frame", "cr_origin", "cr_running",
    "cr_suspended", "send", "throw"]
  | asyncGenerator => [
    "__aiter__", "__anext__", "__class_getitem__", "__del__", "__doc__", "__getattribute__",
    "__name__", "__qualname__", "__repr__", "__sizeof__", "aclose", "ag_await", "ag_code",
    "ag_frame", "ag_running", "asend", "athrow"]
  | asyncGeneratorStep => [
    "__await__", "__doc__", "__getattribute__", "__iter__", "__next__", "close", "send", "throw"]
  | future => [
    "__await__", "__class_getitem__", "__del__", "__doc__", "__init__", "__iter__", "__new__",
    "__repr__", "_asyncio_future_blocking", "_callbacks", "_cancel_message", "_exception",
    "_log_traceback", "_loop", "_make_cancelled_error", "_result", "_source_traceback", "_state",
    "add_done_callback", "cancel", "cancelled", "done", "exception", "get_loop",
    "remove_done_callback", "result", "set_exception", "set_result"]
  | task => [
    "__await__", "__class_getitem__", "__del__", "__doc__", "__init__", "__iter__", "__new__",
    "__repr__", "_asyncio_future_blocking", "_callbacks", "_cancel_message", "_coro", "_exception",
    "_fut_waiter", "_log_destroy_pending", "_log_traceback", "_loop", "_make_cancelled_error",
    "_must_cancel", "_result", "_source_traceback", "_state", "add_done_callback", "cancel",
    "cancelled", "cancelling", "done", "exception", "get_coro", "get_name", "get_stack",
    "print_stack", "remove_done_callback", "result", "set_exception", "set_name", "set_result",
    "uncancel"]
  | eventLoop => [
    "__dict__", "__doc__", "__module__", "__weakref__", "_ready", "_run_once", "_scheduled",
    "_stopping", "_timer_handle_cancelled", "add_reader", "add_signal_handler", "add_writer",
    "call_at", "call_exception_handler", "call_later", "call_soon", "call_soon_threadsafe", "close",
    "connect_accepted_socket", "connect_read_pipe", "connect_write_pipe", "create_connection",
    "create_datagram_endpoint", "create_future", "create_server", "create_task",
    "create_unix_connection", "create_unix_server", "default_exception_handler", "get_debug",
    "get_exception_handler", "get_task_factory", "getaddrinfo", "getnameinfo", "is_closed",
    "is_running", "remove_reader", "remove_signal_handler", "remove_writer", "run_forever",
    "run_in_executor", "run_until_complete", "sendfile", "set_debug", "set_default_executor",
    "set_exception_handler", "set_task_factory", "shutdown_asyncgens", "shutdown_default_executor",
    "sock_accept", "sock_connect", "sock_recv", "sock_recv_into", "sock_recvfrom",
    "sock_recvfrom_into", "sock_sendall", "sock_sendfile", "sock_sendto", "start_tls", "stop",
    "subprocess_exec", "subprocess_shell", "time"]
  | .alias => [
    "__args__", "__call__", "__doc__", "__eq__", "__getitem__", "__hash__", "__new__", "__origin__",
    "__repr__"]
  | sample => ["__dict__", "__doc__", "__hash__", "__module__", "__repr__", "__weakref__"]
  | exception c => c.members

/-- The class in the line of ancestors that defines a name, if one does. -/
def definer? (c : Builtin) (name : String) : Option Builtin :=
  c.lineage.find? fun d => d.members.contains name

end Builtin

end EmbeddedPython
