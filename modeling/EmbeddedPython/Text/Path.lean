import EmbeddedPython.Text.Basic
import EmbeddedPython.Text.Search

/-
  Paths

  A path is a text of names between slashes; one that begins with a slash is
  absolute. The last name is the base of the path and what is in front of it
  the directory.
-/

namespace EmbeddedPython.Text

/-- The slash. -/
def slash : Nat := 0x2F

/-- The dot. -/
def dot : Nat := 0x2E

/-- Whether a path is absolute. -/
def isAbsolutePath (t : Text) : Bool := t.points.head? == some slash

/-- The path that leads from `a` to `b`. -/
def joinPath (a b : Text) : Text :=
  if b.isAbsolutePath then b
  else if a.points.isEmpty || a.points.getLast? == some slash then a ++ b
  else a ++ ⟨[slash]⟩ ++ b

/-- The parts of a path up to its last slash and behind it. -/
def cutPath (t : Text) : List Nat × List Nat :=
  let base := (t.points.reverse.takeWhile (· != slash)).reverse
  (t.points.take (t.points.length - base.length), base)

/-- The last name of a path. -/
def baseName (t : Text) : Text := ⟨t.cutPath.2⟩

/-- The directory of a path: slashes at its end are left out unless there is nothing else. -/
def directoryName (t : Text) : Text :=
  let head := t.cutPath.1
  ⟨if head.all (· == slash) then head else stripRight (· == slash) head⟩

/-- A path without the extension of its last name, and the extension. Dots at the front of the name
begin none. -/
def splitExtension (t : Text) : Text × Text :=
  let (head, base) := t.cutPath
  let hidden := base.takeWhile (· == dot)
  let name := base.drop hidden.length
  let extension := (name.reverse.takeWhile (· != dot)).reverse
  if extension.length < name.length then
    let stem := name.take (name.length - extension.length - 1)
    (⟨head ++ hidden ++ stem⟩, ⟨dot :: extension⟩)
  else (t, Text.empty)

/-- Adds a name to names that lead somewhere, with the latest first. -/
def follow (rooted : Bool) (names : List (List Nat)) (name : List Nat) : List (List Nat) :=
  if name.isEmpty || name == [dot] then names
  else if name != [dot, dot] then name :: names
  else
    match names with
    | [] => if rooted then [] else [name]
    | last :: rest => if last == [dot, dot] then name :: names else rest

/-- The shortest path that leads to the same place, as far as the names tell. -/
def normalPath (t : Text) : Text :=
  let slashes := t.points.takeWhile (· == slash)
  let root := if slashes.length = 2 then slashes else slashes.take 1
  let names := splitOn [slash] t.points.length t.points
  let names := (names.foldl (follow (!root.isEmpty)) []).reverse
  let path := root ++ List.intercalate [slash] names
  ⟨if path.isEmpty then [dot] else path⟩

end EmbeddedPython.Text
