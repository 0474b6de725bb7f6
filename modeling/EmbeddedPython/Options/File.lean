import EmbeddedPython.Options.Toml

/-
  Options from a file

  A directory is a list of files by their paths from it; what is on the way to
  a file is a directory too, and so are the directories above, of which nothing
  else is known. Names are looked up part by part, so the first
  part that is missing, is no directory or is too long decides the failure.
-/

namespace EmbeddedPython

/-- The content of a file: text, or bytes that are no UTF-8 text. -/
inductive FileContent where
  | text (s : String)
  | binary
  deriving DecidableEq, Repr

/-- A directory with the files below it, each under its path. -/
abbrev Directory := List (String × FileContent)

/-- Why a file cannot be read. -/
inductive FileProblem where
  | notFound
  | isDirectory
  | notDirectory
  | nameTooLong
  | invalidUtf8
  | containsNul
  deriving DecidableEq, Repr

namespace FileProblem

def message : FileProblem → String
  | notFound => "No such file or directory (os error 2)"
  | isDirectory => "Is a directory (os error 21)"
  | notDirectory => "Not a directory (os error 20)"
  | nameTooLong => "File name too long (os error 36)"
  | invalidUtf8 => "stream did not contain valid UTF-8"
  | containsNul => "file name contained an unexpected NUL byte"

end FileProblem

namespace Directory

/-- The parts of a path between its slashes. -/
def partsOf (path : String) : List String := path.splitOn "/"

/-- What stands at a normalized path below the directory: a file, or `none` for a directory. -/
def lookup? (d : Directory) (parts : List String) : Option (Option FileContent) :=
  if parts.all (· == "..") then some none
  else
    match d.find? fun f => (partsOf f.1).filter (fun p => p != "" && p != ".") == parts with
    | some f => some (some f.2)
    | none =>
      if d.any fun f => parts.isPrefixOf ((partsOf f.1).filter fun p => p != "" && p != ".") then some none
      else none

/-- Follows the parts of a path from `here`. -/
def walk (d : Directory) : List String → List String → Except FileProblem (List String)
  | here, [] => .ok here
  | here, part :: rest =>
    match d.lookup? here with
    | none => .error .notFound
    | some (some _) => .error .notDirectory
    | some none =>
      if part == "" || part == "." then walk d here rest
      else if part == ".." then
        walk d (if here.all (· == "..") then here ++ [".."] else here.dropLast) rest
      else if 255 < part.utf8ByteSize then .error .nameTooLong
      else
        match d.lookup? (here ++ [part]) with
        | none => .error .notFound
        | some _ => walk d (here ++ [part]) rest

/-- Reads a text file. -/
def readText (d : Directory) (path : String) : Except FileProblem String :=
  if path.toList.contains '\x00' then .error .containsNul
  else if path.isEmpty then .error .notFound
  else if 4095 < path.utf8ByteSize then .error .nameTooLong
  else do
    let place ← if path.startsWith "/" then
      (if (partsOf path).all (fun p => p == "" || p == "." || p == "..") then .ok []
       else .error .notFound)
      else walk d [] (partsOf path)
    match d.lookup? place with
    | none => .error .notFound
    | some none => .error .isDirectory
    | some (some .binary) => .error .invalidUtf8
    | some (some (.text s)) => .ok s

end Directory

namespace Options

/-- Options from the content of a TOML file; a failure names the path first. -/
def ofFile (path : String) (content : Except FileProblem String) : Except Error Options :=
  match content with
  | .error p => .error (.config (path ++ ": " ++ p.message))
  | .ok s => (read s).mapError fun p => .config (path ++ ": " ++ p.message)

/-- Options from a TOML file below a directory. -/
def load (d : Directory) (path : String) : Except Error Options := ofFile path (d.readText path)

end Options

end EmbeddedPython
