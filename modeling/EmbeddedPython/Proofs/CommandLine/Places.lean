import EmbeddedPython.CommandLine.Program
import EmbeddedPython.Proofs.CommandLine.Paths
import EmbeddedPython.Proofs.Environment.Undoing

/-
  Where a run looks for modules

  A run starts its environment with the places of its options file, followed by
  paths of its command line: those at the command, or those before it if there
  are none at the command. The interpreter then looks there after the places that
  it is made with. Paths that are given on both sides of the command are not all
  looked in.
-/

namespace EmbeddedPython.CommandLine

open Activity

theorem withSearchPaths (paths : List String) (o : Options) :
    (paths.foldl (fun o path => o.withSearchPath path) o).searchPaths = o.searchPaths ++ paths := by
  induction paths generalizing o with
  | nil => exact (List.append_nil _).symm
  | cons path rest ih =>
    rw [List.foldl_cons, ih, Options.withSearchPath, List.append_assoc]
    rfl

/-- The options of the file of a run, or the default ones. -/
def Invocation.fileOptions (i : Invocation) (readFile : String → Except FileProblem String) :
    Except Error Options :=
  match i.config with
  | some path => Options.ofFile path (readFile path)
  | none => .ok Options.default

variable {words : List String} {readFile : String → Except FileProblem String} {i : Invocation}
  {o : Options}

theorem Invocation.options_searchPaths (h : i.options readFile = .ok o) :
    ∃ base, i.fileOptions readFile = .ok base ∧ o.searchPaths = base.searchPaths ++ i.paths := by
  have same : i.options readFile = (i.fileOptions readFile).map
      fun base => i.paths.foldl (fun o path => o.withSearchPath path) base := by
    rw [Invocation.options, fileOptions]
    cases i.config with
    | none => rfl
    | some path =>
      dsimp only
      cases Options.ofFile path (readFile path) <;> rfl
  rw [same] at h
  cases file : i.fileOptions readFile with
  | error e =>
    rw [file] at h
    cases h
  | ok base =>
    rw [file] at h
    cases h
    exact ⟨base, rfl, withSearchPaths i.paths base⟩

/-- A run looks for modules in the places that the interpreter is made with, those of its file and
the paths at its command, in this order, and the paths before the command come in where there are
none at the command. So all paths count if and only if all are on one side of the command. -/
theorem paths_of_one_side_count (h : read words = .ok i) (options : i.options readFile = .ok o) :
    ∃ base, i.fileOptions readFile = .ok base ∧
      o.searchPaths = base.searchPaths ++
        (if (pathsAt words).isEmpty then pathsBefore words else pathsAt words) ∧
      (o.searchPaths = base.searchPaths ++ (pathsBefore words ++ pathsAt words) ↔
        pathsBefore words = [] ∨ pathsAt words = []) ∧
      (start mainThread o Process.absent).1 = .ok 0 ∧
      ∃ id places, (start mainThread o Process.absent).2.host.memory.Searches id places ∧
        (start mainThread o Process.absent).2.host.memory.Spell places
          (initialSearchPath ++ o.searchPaths) := by
  obtain ⟨base, file, searchPaths⟩ := Invocation.options_searchPaths options
  rw [read_paths h] at searchPaths
  refine ⟨base, file, searchPaths, ?_, start_of_absent mainThread o rfl rfl⟩
  rw [searchPaths, List.append_right_inj]
  cases at' : pathsAt words with
  | nil => simp
  | cons path rest => simp

/-- A command line with a path on each side of its command, which asks for those that are looked in. -/
def bothSides : List String := ["--path", "a", "eval",
  "[p for p in __import__('sys').path if p in ['a', 'b']]", "--path", "b"]

theorem bothSides_read : ∃ i, read bothSides = .ok i ∧ i.config = none ∧
    i.options (fun _ => .error .notFound) = .ok { Options.default with searchPaths := ["b"] } :=
  ⟨⟨none, ["b"], false, .eval "[p for p in __import__('sys').path if p in ['a', 'b']]"⟩,
    by rfl, rfl, rfl⟩

/-- The path before the command does not count. -/
theorem path_before_command_is_lost :
    pathsBefore bothSides = ["a"] ∧ pathsAt bothSides = ["b"] ∧
    ∃ i o, read bothSides = .ok i ∧ i.options (fun _ => .error .notFound) = .ok o ∧
      i.fileOptions (fun _ => .error .notFound) = .ok Options.default ∧
      o.searchPaths ≠
        Options.default.searchPaths ++ (pathsBefore bothSides ++ pathsAt bothSides) := by
  obtain ⟨i, told, config, options⟩ := bothSides_read
  refine ⟨by decide, by decide, i, _, told, options, ?_, by decide⟩
  rw [Invocation.fileOptions, config]

theorem bothSides_places : ∃ i, read bothSides = .ok i ∧
    ∃ base, i.fileOptions (fun _ => .error .notFound) = .ok base ∧
      ["b"] = base.searchPaths ++
        (if (pathsAt bothSides).isEmpty then pathsBefore bothSides else pathsAt bothSides) := by
  obtain ⟨i, told, -, options⟩ := bothSides_read
  obtain ⟨base, file, places, -⟩ := paths_of_one_side_count told options
  exact ⟨i, told, base, file, places⟩

end EmbeddedPython.CommandLine
