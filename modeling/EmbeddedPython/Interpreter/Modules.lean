import EmbeddedPython.Interpreter.Library

/-
  Modules

  A module is made when it is first imported and kept under its name. The
  modules inside a package are imported after the package and become its
  attributes.
-/

namespace EmbeddedPython

/-- The packages that can be imported, with the modules in them. -/
def packages : List (String × List String) := [
  ("asyncio", ["base_events", "coroutines", "events", "exceptions", "futures", "locks", "queues",
    "runners", "streams", "subprocess", "tasks", "threads", "timeouts", "transports", "unix_events"]),
  ("collections", ["abc"]), ("concurrent", ["futures"]), ("ctypes", ["util"]),
  ("curses", []), ("dbm", []), ("distutils", []), ("email", ["message", "mime", "parser", "utils"]),
  ("encodings", ["ascii", "latin_1", "utf_8"]), ("html", ["entities", "parser"]),
  ("http", ["client", "cookies", "server"]),
  ("importlib", ["abc", "machinery", "metadata", "resources", "util"]),
  ("json", ["decoder", "encoder", "scanner", "tool"]), ("lib2to3", []),
  ("logging", ["config", "handlers"]), ("multiprocessing", ["connection", "pool", "queues"]),
  ("re", []), ("sqlite3", ["dbapi2"]), ("tomllib", []), ("unittest", ["case", "main", "mock"]),
  ("urllib", ["error", "parse", "request", "response"]), ("venv", []), ("wsgiref", []),
  ("xml", ["dom", "etree", "parsers", "sax"]), ("xmlrpc", ["client", "server"]), ("zoneinfo", [])]

/-- The modules that are no packages. -/
def plainModules : List String := [
  "abc", "argparse", "array", "ast", "atexit", "base64", "bdb", "binascii", "bisect", "builtins",
  "bz2", "calendar", "cmath", "cmd", "code", "codecs", "configparser", "contextlib",
  "contextvars", "copy", "copyreg", "csv", "dataclasses", "datetime", "decimal", "difflib", "dis",
  "doctest", "enum", "errno", "faulthandler", "fcntl", "filecmp", "fileinput", "fnmatch",
  "fractions", "functools", "gc", "getopt", "getpass", "gettext", "glob", "graphlib", "grp", "gzip",
  "hashlib", "heapq", "hmac", "inspect", "io", "ipaddress", "itertools", "keyword", "linecache",
  "locale", "lzma", "marshal", "math", "mimetypes", "mmap", "ntpath", "numbers", "operator", "orc",
  "os", "pathlib", "pdb", "pickle", "pkgutil", "platform", "posix", "posixpath", "pprint",
  "profile", "pstats", "pwd", "pydoc", "queue", "random", "reprlib", "resource", "runpy", "sched",
  "secrets", "select", "selectors", "shelve", "shlex", "shutil", "signal", "site", "socket",
  "socketserver", "ssl", "stat", "statistics", "string", "stringprep", "struct", "subprocess",
  "symtable", "sys", "sysconfig", "syslog", "tarfile", "tempfile", "termios", "textwrap", "this",
  "threading", "time", "timeit", "token", "tokenize", "trace", "traceback", "tracemalloc", "types",
  "typing", "unicodedata", "uuid", "warnings", "wave", "weakref", "webbrowser", "zipapp", "zipfile",
  "zipimport", "zlib"]

namespace Eval

/-- The name that a module was made under: some names stand for another one. -/
def moduleTitle (name : String) : String := if name == "os.path" then "posixpath" else name

/-- Whether there is a module of a name. -/
def isModule (name : String) : Bool :=
  name == "os.path" || plainModules.contains name || (packages.lookup name).isSome
    || packages.any fun p => p.2.any fun inner => p.1 ++ "." ++ inner == name

/-- Whether a module is a package. -/
def isPackage (name : String) : Bool := (packages.lookup name).isSome

/-- The attributes that a module is made with. -/
def moduleAttributes (name : String) : Eval (List (String × Ref)) := do
  let native := fun (module : String) (names : List String) =>
    names.map fun n => (n, Ref.static (.function module n))
  match name with
  | "builtins" => do
    let classes := Builtin.named.map fun c => (c.name, Ref.ofBuiltin c)
    let exceptions := ExceptionClass.all.filterMap fun c =>
      if c == .cancelledError || c == .invalidStateError then none
      else some (c.name, Ref.ofExceptionClass c)
    pure (native "builtins" builtinFunctions ++ classes ++ exceptions
      ++ [("None", Ref.none), ("True", Ref.ofBool true), ("False", Ref.ofBool false),
        ("NotImplemented", Ref.notImplemented), ("Ellipsis", .static .ellipsis)])
  | "math" => do
    let constants : List (String × Float) := [("pi", 3.141592653589793), ("e", 2.718281828459045),
      ("tau", 6.283185307179586), ("inf", 1.0 / 0.0), ("nan", 0.0 / 0.0)]
    let values ← constants.mapM fun (c : String × Float) => do pure (c.1, ← newFloat c.2)
    pure (native "math" mathFunctions ++ values)
  | "sys" => do
    let path ← match (← memory).searchPath with
      | some r => pure r
      | none => newList []
    let newestIndex ← newInt maxIndex
    pure [("exit", .static (.function "sys" "exit")), ("path", path), ("maxsize", newestIndex), ("byteorder", ← newString "little"),
      ("platform", ← newString "linux"), ("version", ← newString "3.11.2")]
  | "asyncio" =>
    pure (native "asyncio" (loopFunctions ++ ["new_event_loop", "ensure_future"])
      ++ [("CancelledError", Ref.ofExceptionClass .cancelledError),
        ("InvalidStateError", Ref.ofExceptionClass .invalidStateError),
        ("Future", Ref.ofBuiltin .future), ("Task", Ref.ofBuiltin .task),
        ("TimeoutError", Ref.ofExceptionClass .timeoutError)])
  | "os.path" => do
    let functions ← pathFunctions.mapM fun (f : String × Language.Signature) => do
      pure (f.1, ← newFunction f.1 f.2 (.path f.1))
    pure (functions ++ [("sep", ← newString "/")])
  | "os" => pure [("name", ← newString "posix"), ("sep", ← newString "/")]
  | "operator" =>
    pure (native "operator" (operatorFunctions.map (·.1) ++ comparisonFunctions.map (·.1)))
  | "orc" => do
    let functions ← SampleFunction.all.mapM fun f => do pure (f.name, ← newSample f)
    pure (functions ++ [("value", .static (.smallInt 42)), ("Base", Ref.ofBuiltin .sample),
      ("sys", Ref.none)])
  | _ => pure []

/-- Makes a module and keeps it. -/
def makeModule (name : String) : Eval Ref := do
  let attributes ← moduleAttributes name
  let title ← newString (moduleTitle name)
  let r ← alloc (Ref.ofBuiltin .module) (.module (moduleTitle name))
    (some (("__name__", title) :: attributes))
  note (fun m => { m with modules := m.modules ++ [(name, r)] }) (fun _ => rfl) fun _ => rfl
  pure r

/-- Raises the error of a module that there is not. -/
def noModule {α : Type} (name explanation : String) : Eval α := do
  let text ← newString ("No module named '" ++ name ++ "'" ++ explanation)
  let shown ← newString name
  throw (← make (.exception .moduleNotFoundError) (.exception [text] (.importing text shown)))

/-- Imports the modules of a dotted name one inside the other; the answer is the last. -/
def importParts (done : String) (parent : Option Ref) : List String → Eval (Option Ref)
  | [] => pure parent
  | part :: rest => do
    let name := if parent.isSome then done ++ "." ++ part else part
    let r ← match (← memory).modules.lookup name with
      | some r => pure r
      | none =>
        if isModule name then makeModule name
        else if parent.isSome && !isPackage done then
          noModule name ("; '" ++ done ++ "' is not a package")
        else noModule name ""
    match parent with
    | some p => setOwnAttr p part r
    | none => pure ()
    importParts name (some r) rest

/-- Imports a module by its whole name. -/
def importModule (name : String) : Eval Ref := do
  if name.isEmpty then valueError "Empty module name"
  else
    let parts := name.splitOn "."
    -- a name with nothing in front of its last dot is looked for as it stands
    let parts := if parts.headD "" == "" then [name] else parts
    -- the module of the system brings the one of paths along
    if parts == ["os"] then
      let _ ← importParts "" none ["os", "path"]
    match (← importParts "" none parts) with
    | some r => pure r
    | none => pure Ref.none

/-- The module that the first part of a name is of, after importing all of it. -/
def importFirst (name : String) : Eval Ref := do
  let r ← importModule name
  match (← memory).modules.lookup ((name.splitOn ".").headD "") with
  | some top => pure top
  | none => pure r

end Eval

/-- The list of the places where modules are looked for: what the module of the system has under
that name, once it has been imported. -/
def Memory.currentSearchPath (m : Memory) : Option Ref :=
  match m.modules.lookup "sys" with
  | some sys => ((m.object sys).attributes.getD []).lookup "path"
  | none => m.searchPath

end EmbeddedPython
