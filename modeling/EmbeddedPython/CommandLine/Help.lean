import EmbeddedPython.CommandLine.Shape

/-
  Help

  What a level of the command line is about, how it is used, and what can be
  given at it, one thing in a line with the explanations below each other.
-/

namespace EmbeddedPython.CommandLine

/-- What help can be about. -/
inductive Topic where
  | level (l : Level)
  /-- the command that shows help -/
  | help
  deriving DecidableEq, Repr, Inhabited

namespace Topic

/-- The topic of a name. -/
def ofName? (s : String) : Option Topic :=
  if s == helpName then some help else (Verb.ofName? s).map fun v => level (some v)

end Topic

def programAbout : String := "Run Python code in an embedded interpreter"

def helpAbout : String := "Print this message or the help of the given subcommand(s)"

/-- Lines of terms with the explanations below each other. -/
def table (rows : List (String × String)) : List String :=
  let width := rows.foldl (fun w r => max w r.1.length) 0
  rows.map fun (term, about) =>
    "  " ++ term ++ String.ofList (List.replicate (width - term.length) ' ') ++ "  " ++ about

/-- The term of a setting in help: a short form has its place in front of the long one. -/
def Setting.term (s : Setting) : String :=
  (match s.short? with
    | some c => "-" ++ c.toString ++ ", "
    | none => "    ") ++ s.written

/-- A part of help under a heading. -/
def part (heading : String) (rows : List (String × String)) : List String :=
  if rows.isEmpty then [] else "" :: heading :: table rows

/-- The lines of help. -/
def Topic.lines : Topic → List String
  | .help =>
    [helpAbout, "", "Usage: " ++ programName ++ " " ++ helpName ++ " [COMMAND]..."]
      ++ part "Arguments:" [("[COMMAND]...", "Print help for the subcommand(s)")]
  | .level none =>
    [programAbout, "", "Usage: " ++ programName ++ " [OPTIONS] <COMMAND>"]
      ++ part "Commands:" (Verb.all.map (fun v => (v.name, v.about)) ++ [(helpName, helpAbout)])
      ++ part "Options:" ((Level.settings none).map fun s => (s.term, s.about))
  | .level (some v) =>
    [v.about, "", "Usage: " ++ programName ++ " " ++ v.name ++ " [OPTIONS] "
        ++ " ".intercalate (v.operands.map Operand.written)]
      ++ part "Arguments:" (v.operands.map fun o => (o.written, o.about))
      ++ part "Options:" ((Level.settings (some v)).map fun s => (s.term, s.about))

/-- Help as it is printed. -/
def Topic.text (t : Topic) : String := String.join (t.lines.map (· ++ "\n"))

end EmbeddedPython.CommandLine
