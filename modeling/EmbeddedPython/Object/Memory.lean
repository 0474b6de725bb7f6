import EmbeddedPython.Duration
import EmbeddedPython.Object.Members
import EmbeddedPython.Object.Value

/-
  The memory of an interpreter

  The cells hold every object ever made. Which of them are still there is not
  stored but defined: an object is alive if the host or the interpreter itself
  holds on to it, or another object that is alive. A ring of objects that hold
  on to each other stays alive, as it does under plain reference counting. The
  count of an object is the number of times that it is held.
-/

namespace EmbeddedPython

inductive GateState where
  | closed
  | opened (value : Ref)
  | failed (exception : Ref)
  deriving DecidableEq, Repr, Inhabited

/-- A gate that coroutines wait at, with the futures they wait for. -/
structure Gate where
  state : GateState
  waiters : List Ref
  deriving DecidableEq, Repr, Inhabited

/-- The memory of an interpreter. -/
structure Memory where
  cells : Array Object
  modules : List (String × Ref)
  /-- the list of the places where modules are looked for -/
  searchPath : Option Ref
  gates : List (String × Gate)
  /-- the containers whose text is being made -/
  showing : List Ref
  runningLoop : Option Ref
  currentTask : Option Ref
  /-- what programs have printed and the interpreter still keeps -/
  printed : String
  /-- what has gone out to the standard output of the process -/
  output : String
  /-- when a program interrupts the process, if it does -/
  alarm : Option Duration
  /-- the futures and the loops that programs have set attributes of -/
  customized : List Ref
  deriving Inhabited

namespace Static

/-- The class of an object that exists once and for all. -/
def cls : Static → Builtin
  | none => .none
  | truth _ => .bool
  | notImplemented => .notImplemented
  | ellipsis => .ellipsis
  | smallInt _ => .int
  | shortText _ => .str
  | emptyTuple => .tuple
  | shortBytes _ => .bytes
  | builtin _ => .type
  | function .. => .nativeFunction
  | method .. => .nativeMethod

def value : Static → Value
  | truth b => .int (if b then 1 else 0)
  | smallInt n => .int n
  | shortText t => .text t
  | emptyTuple => .tuple []
  | shortBytes b => .bytes b
  | _ => .plain

/-- The object as one of the others would be. -/
def object (s : Static) : Object := ⟨Ref.ofBuiltin s.cls, s.value, Option.none⟩

end Static

namespace Memory

/-- The memory of an interpreter that has just been initialized. -/
def fresh : Memory := ⟨#[], [], none, [], [], none, none, "", "", none, []⟩

/-- The object that a reference is to. -/
def object (m : Memory) : Ref → Object
  | .static s => s.object
  | .cell id => m.cells.getD id Static.none.object

def valueOf (m : Memory) (r : Ref) : Value := (m.object r).value

def classOf (m : Memory) (r : Ref) : Ref := (m.object r).cls

/-- Makes an object. -/
def alloc (m : Memory) (o : Object) : Ref × Memory :=
  (.cell m.cells.size, { m with cells := m.cells.push o })

/-- Puts an object in the place of the one that a reference is to. -/
def set (m : Memory) (r : Ref) (o : Object) : Memory :=
  match r with
  | .static _ => m
  | .cell id => { m with cells := m.cells.setIfInBounds id o }

def setValue (m : Memory) (r : Ref) (v : Value) : Memory :=
  m.set r { m.object r with value := v }

/-- What a class is: the built-in one, or what a program made of it. -/
inductive ClassView where
  | builtin (c : Builtin)
  | made (info : ClassInfo)

/-- The class that a reference is to, if it is to a class. -/
def class? (m : Memory) : Ref → Option ClassView
  | .static (.builtin c) => some (.builtin c)
  | .static _ => none
  | r@(.cell _) =>
    match m.valueOf r with
    | .cls info => some (.made info)
    | _ => none

/-- A class and its ancestors, nearest first. -/
def lineage (m : Memory) (cls : Ref) : List Ref :=
  match m.class? cls with
  | some (.builtin c) => c.lineage.map Ref.ofBuiltin
  | some (.made info) => cls :: info.ancestors
  | none => []

def isSubclass (m : Memory) (cls ancestor : Ref) : Bool := (m.lineage cls).contains ancestor

def isInstance (m : Memory) (r ancestor : Ref) : Bool := m.isSubclass (m.classOf r) ancestor

/-- Whether the class of an object is a built-in one or descends from it. -/
def isKind (m : Memory) (r : Ref) (c : Builtin) : Bool := m.isInstance r (Ref.ofBuiltin c)

def isException (m : Memory) (r : Ref) (c : ExceptionClass) : Bool := m.isKind r (.exception c)

/-- Whether the class of an object is exactly a built-in one. -/
def isExactly (m : Memory) (r : Ref) (c : Builtin) : Bool := m.classOf r == Ref.ofBuiltin c

/-- The name that a class was made with. -/
def className (m : Memory) (cls : Ref) : String :=
  match m.class? cls with
  | some (.builtin c) => c.name
  | some (.made info) => info.name
  | none => "object"

/-- The name of the class of an object. -/
def typeName (m : Memory) (r : Ref) : String := m.className (m.classOf r)

/-- The nearest built-in class that a class descends from. -/
def nearestBuiltin (m : Memory) (cls : Ref) : Builtin :=
  ((m.lineage cls).findSome? fun c =>
    match c with
    | .static (.builtin b) => some b
    | _ => none).getD .object

/-- The nearest built-in class that an object's class descends from. -/
def kindOf (m : Memory) (r : Ref) : Builtin := m.nearestBuiltin (m.classOf r)

/-! Reference counts -/

/-- What the interpreter holds on to by itself. -/
def ownReferences (m : Memory) : List Ref :=
  m.modules.map (·.2) ++ m.searchPath.toList ++ m.runningLoop.toList ++ m.currentTask.toList
    ++ m.gates.flatMap fun g =>
      g.2.waiters ++ (match g.2.state with
        | .closed => []
        | .opened r | .failed r => [r])

/-- The references of all objects of which `alive` says that they are there. -/
def referencesOf (m : Memory) (alive : Nat → Bool) : List Ref :=
  (List.range m.cells.size).flatMap fun id =>
    if alive id then (m.object (.cell id)).references else []

/-- Of the objects in `alive`, those that `roots` or another of them hold on to. -/
def retained (m : Memory) (roots : List Ref) (alive : Array Bool) : Array Bool :=
  let mark := fun (marks : Array Bool) (r : Ref) =>
    match r with
    | .cell id => marks.setIfInBounds id true
    | .static _ => marks
  let marks := roots.foldl mark (Array.replicate m.cells.size false)
  let marks := (m.referencesOf fun id => alive.getD id false).foldl mark marks
  Array.zipWith (fun a b => a && b) alive marks

/-- Lets go of what nothing holds on to, round by round. -/
def settle (m : Memory) (roots : List Ref) : Nat → Array Bool → Array Bool
  | 0, alive => alive
  | rounds + 1, alive =>
    let next := m.retained roots alive
    if next == alive then alive else m.settle roots rounds next

/-- Which objects are alive while the host holds on to `held`. -/
def alive (m : Memory) (held : List Ref) : Array Bool :=
  m.settle (held ++ m.ownReferences) m.cells.size (Array.replicate m.cells.size true)

/-- How many times an object is held. -/
def referenceCount (m : Memory) (held : List Ref) (r : Ref) : Nat :=
  let alive := m.alive held
  (held ++ m.ownReferences ++ m.referencesOf fun id => alive.getD id false).count r

/-- How many probes are alive. -/
def liveProbes (m : Memory) (held : List Ref) : Nat :=
  let alive := m.alive held
  ((List.range m.cells.size).filter fun id =>
    alive.getD id false && (match m.class? (m.classOf (.cell id)) with
      | some (.made info) => info.counted
      | _ => false)).length

end Memory

end EmbeddedPython
