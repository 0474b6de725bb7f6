import EmbeddedPython.Decimal.Binary64

/-
  TOML values and tables

  A document is a table. While it is read, a table remembers how it came to
  be: by a header, by being on the way to another table, or by a dotted key.
  These decide which later definitions may still add to it, and a definition
  that may not makes the document ill-formed.
-/

namespace EmbeddedPython.Toml

/-- A value of a document. -/
inductive Value where
  | text (s : String)
  | integer (n : Int)
  | float (x : Float)
  | boolean (b : Bool)
  | dateTime
  | array (items : List Value)
  | table (entries : List (String × Value))

/-- An entry of a table while the document is read. -/
inductive Node where
  /-- a value, an inline table among them; it is never added to -/
  | value (v : Value)
  /-- a table; `implicit` until a header defines it, `dotted` if a dotted key made it -/
  | table (implicit dotted : Bool) (entries : List (String × Node))
  /-- an array of tables; the last one is added to -/
  | tables (elements : List (List (String × Node)))

/-- A table while the document is read. -/
structure Table where
  implicit : Bool
  dotted : Bool
  entries : List (String × Node)

namespace Table

/-- The table of the lines before the first header. -/
def root : Table := ⟨false, false, []⟩

def node (t : Table) : Node := .table t.implicit t.dotted t.entries

def find? (t : Table) (key : String) : Option Node := t.entries.lookup key

/-- Gives an existing key another node, or adds the key at the end. -/
def set (t : Table) (key : String) (n : Node) : Table :=
  if t.entries.any (·.1 == key) then
    { t with entries := t.entries.map fun e => if e.1 == key then (key, n) else e }
  else { t with entries := t.entries ++ [(key, n)] }

def erase (t : Table) (key : String) : Table :=
  { t with entries := t.entries.filter (·.1 != key) }

/-- Applies `f` to the table at the end of a path, making the tables on the way. A dotted key
may not pass through a table that a header defined. -/
def modify (dotted : Bool) (f : Table → Option Table) : List String → Table → Option Table
  | [], t => f t
  | key :: rest, t =>
    match t.find? key with
    | none => (modify dotted f rest ⟨true, dotted, []⟩).map fun child => t.set key child.node
    | some (.value _) => none
    | some (.table implicit wasDotted entries) =>
      if dotted && !implicit then none
      else (modify dotted f rest ⟨implicit, wasDotted, entries⟩).map fun child => t.set key child.node
    | some (.tables elements) =>
      match elements.getLast? with
      | none => none
      | some last =>
        (modify dotted f rest ⟨false, false, last⟩).map fun child =>
          t.set key (.tables (elements.dropLast ++ [child.entries]))

/-- Adds a key with its value, once. The key's table must have been made in the same way. -/
def insert (path : List String) (key : String) (v : Value) (t : Table) : Option Table :=
  modify true (fun last =>
    if last.dotted == path.isEmpty then none
    else if (last.find? key).isSome then none
    else some (last.set key (.value v))) path t

/-- The entries of the table `key` at the end of a path; none if there is no such table. -/
def entriesAt (key : String) : List String → Table → List (String × Node)
  | [], t =>
    match t.find? key with
    | some (.table _ _ entries) => entries
    | _ => []
  | k :: rest, t =>
    match t.find? k with
    | some (.table implicit dotted entries) => entriesAt key rest ⟨implicit, dotted, entries⟩
    | some (.tables elements) => entriesAt key rest ⟨false, false, elements.getLast?.getD []⟩
    | _ => []

end Table

mutual
/-- The value that a node stands for. -/
def Node.toValue : Node → Value
  | .value v => v
  | .table _ _ entries => .table (Node.toValues entries)
  | .tables elements => .array (Node.toArray elements)
def Node.toValues : List (String × Node) → List (String × Value)
  | [] => []
  | (key, n) :: rest => (key, n.toValue) :: Node.toValues rest
def Node.toArray : List (List (String × Node)) → List Value
  | [] => []
  | entries :: rest => .table (Node.toValues entries) :: Node.toArray rest
end

/-- A document while it is read: what is finished, and the table that lines are added to. -/
structure Draft where
  finished : Table
  path : List String
  inArray : Bool
  current : Table

namespace Draft

def start : Draft := ⟨Table.root, [], false, Table.root⟩

/-- Puts the current table in its place. -/
def finish (d : Draft) : Option Table :=
  match d.path.getLast? with
  | none => some d.current
  | some key =>
    Table.modify false (fun parent =>
      if d.inArray then
        match parent.find? key with
        | none => some (parent.set key (.tables [d.current.entries]))
        | some (.tables elements) => some (parent.set key (.tables (elements ++ [d.current.entries])))
        | some _ => none
      else
        match parent.find? key with
        | none => some (parent.set key d.current.node)
        | some _ => none) d.path.dropLast d.finished

/-- Begins the table of a header `[path]`: a table that was only passed through is taken over. -/
def beginTable (path : List String) (d : Draft) : Option Draft := do
  let finished ← d.finish
  let key ← path.getLast?
  let parents ← Table.modify false (fun parent =>
    match parent.find? key with
    | none => some parent
    | some (.table true false _) => some parent
    | some _ => none) path.dropLast finished
  let taken := Table.entriesAt key path.dropLast parents
  let rest ← Table.modify false (fun parent => some (parent.erase key)) path.dropLast parents
  some ⟨rest, path, false, ⟨false, false, taken⟩⟩

/-- Begins an element of the array of a header `[[path]]`. -/
def beginElement (path : List String) (d : Draft) : Option Draft := do
  let finished ← d.finish
  let key ← path.getLast?
  let parents ← Table.modify false (fun parent =>
    match parent.find? key with
    | none => some (parent.set key (.tables []))
    | some (.tables _) => some parent
    | some _ => none) path.dropLast finished
  some ⟨parents, path, true, ⟨false, false, []⟩⟩

/-- Adds a line `path.key = value`. -/
def add (path : List String) (key : String) (v : Value) (d : Draft) : Option Draft := do
  let current ← d.current.insert path key v
  some { d with current := current }

end Draft

end EmbeddedPython.Toml
