import EmbeddedPython.Handle.Call
import EmbeddedPython.Handle.Comparison
import EmbeddedPython.Host.Evaluation

/-
  Scripts over handles

  A script makes objects from blueprints, keeps handles to them by name and
  performs one operation after the other on them. Each has an answer of its
  own; at the end all handles that are left are dropped.
-/

namespace EmbeddedPython.HandleScript

/-- The key of an item: a value of the host, or the object of a handle. -/
inductive Key where
  | value (v : HostValue)
  | handle (name : String)

/-- How a pending exception is noticed. -/
inductive Notice where
  | check
  | owned
  | borrowed
  deriving DecidableEq, Repr, Inhabited

/-- An action of a script. An action with a `target` keeps its result under that name. -/
inductive Action where
  | new (target : String) (blueprint : Blueprint)
  | convert (target : String) (v : HostValue)
  | convertHandle (target x : String)
  | none (target : String)
  | truth (target : String) (b : Bool)
  | clone (target x : String)
  | borrow (target x : String)
  | dispose (x : String)
  | drop (x : String)
  /-- drops a handle on another thread -/
  | dropElsewhere (x : String)
  | isSame (x y : String)
  | compare (x y : String) (c : Comparison)
  | equals (x y : String)
  | partialCompare (x y : String)
  | getAttr (target x name : String)
  | hasAttr (x name : String)
  | setAttr (x name value : String)
  | getItem (target x : String) (key : Key)
  | repr (x : String)
  | str (x : String)
  | typeName (x : String)
  | getType (target x : String)
  | isNone (x : String)
  | isTruthy (x : String)
  | hash (x : String)
  | referenceCount (x : String)
  | isDisposed (x : String)
  | isImmortal (x : String)
  | extract (x : String) (t : HostType)
  | call (target f : String) (arguments : List String)
  | callMethod (target x name : String) (arguments : List String)
  | callWithKeywords (target f : String) (arguments names values : List String)
      (extra : Option String)
  | checkPending
  /-- sets an exception of a class with a value, unless it is nothing -/
  | pending (notice : Notice) (exception : Option (Blueprint × Blueprint))
  | describeException (x : String)
  | importModule (target name : String)
  | evaluateAlone (target expression : String)
  | newGlobals (target : String)
  | evaluate (target globals expression : String)
  | execute (globals code : String)
  | liveProbes

/-- A value of the host with its handles shown by their form. -/
inductive Shown where
  | int (n : Int)
  | float (x : Float)
  | truth (b : Bool)
  | text (s : String)
  | unit
  | form (result : Except Failure String)
  | none
  | some (v : Shown)
  | list (items : List Shown)
  deriving Inhabited

/-- What an action answers. -/
inductive Answer where
  | nothing
  | truth (b : Bool)
  | text (s : String)
  | number (n : Int)
  | order (o : Option Ordering)
  | value (v : Shown)
  | exception (e : PythonError)
  /-- the first notice of a pending exception, and a second check -/
  | notices (first second : Except Failure Unit)
  deriving Inhabited

/-- The handles of a script, by name. -/
abbrev Names := List (String × Handle)

mutual

/-- Shows a value and drops its handles. -/
def shown : HostValue → Op Shown
  | .int n => pure (.int n)
  | .size n => pure (.int n)
  | .float x => pure (.float x)
  | .truth b => pure (.truth b)
  | .text s => pure (.text s)
  | .unit => pure .unit
  | .none => pure .none
  | .some v => do pure (.some (← shown v))
  | .list items => do pure (.list (← shownAll items))
  | .handle x => do
    let form ← Op.caught x.repr
    x.drop
    pure (.form form)

def shownAll : List HostValue → Op (List Shown)
  | [] => pure []
  | v :: rest => do
    let v ← shown v
    pure (v :: (← shownAll rest))

end

namespace Names

/-- The handle of a name. A name without one stands for a handle that has been disposed of. -/
def get (names : Names) (x : String) : Handle := (names.lookup x).getD ⟨Ref.none, true⟩

def erase (names : Names) (x : String) : Names := names.filter (·.1 != x)

/-- Drops the handle that a name has so far. -/
def dropOld (names : Names) (x : String) : Op Unit :=
  match names.lookup x with
  | some old => old.drop
  | none => pure ()

/-- Keeps a handle under a name and drops the older one of that name. -/
def put (names : Names) (x : String) (handle : Handle) : Op Names := do
  names.dropOld x
  pure ((x, handle) :: names.erase x)

/-- Drops the handle of a name. -/
def drop (names : Names) (x : String) : Op Names := do
  names.dropOld x
  pure (names.erase x)

end Names

/-- Makes the object of a blueprint, where names stand for the objects of handles. -/
def ofBlueprint (names : Names) (b : Blueprint) : Op Handle := do
  let naming : Naming := ⟨fun x => (names.lookup x).map (·.ref), fun _ => none⟩
  Op.guarded (Op.request [] (Eval.build Machine.top (b.resolve naming)))

/-- Sets an exception of a class with a value. -/
def raise (names : Names) : Option (Blueprint × Blueprint) → Op Unit
  | some (cls, value) => do
    Handle.spend (← ofBlueprint names cls) fun cls => do
      Handle.spend (← ofBlueprint names value) fun value => Op.raisePending cls.ref value.ref
  | none => pure ()

/-- Notices a pending exception, as a call that fails does. -/
def Notice.take : Notice → Op Unit
  | check => Op.checkPending
  | owned => do (← Op.owned Option.none).drop
  | borrowed => do (← Op.borrowed Option.none).drop

/-- Performs an action. -/
def act (names : Names) : Action → Op (Answer × Names) :=
  let keep := fun (target : String) (made : Op Handle) => do
    let x ← made
    pure (Answer.nothing, ← names.put target x)
  let tell := fun (answer : Op Answer) => do pure (← answer, names)
  let named := fun (xs : List String) => xs.map names.get
  fun
  | .new target b => keep target (ofBlueprint names b)
  | .convert target v => keep target v.toHandle
  | .convertHandle target x => keep target (HostValue.handle (names.get x)).toHandle
  | .none target => keep target (pure Handle.none)
  | .truth target b => keep target (pure (Handle.ofBool b))
  | .clone target x => keep target (names.get x).clone
  | .borrow target x => keep target (Op.guarded (Op.borrowed (some (names.get x).ref)))
  | .dispose x => do
    let disposed ← (names.get x).dispose
    pure (.nothing, names.map fun p => if p.1 == x then (x, disposed) else p)
  | .drop x => do pure (.nothing, ← names.drop x)
  | .dropElsewhere x => do
    pure (.nothing, ← Op.allowingThreads (Op.onThread 1 (names.drop x)))
  | .isSame x y => tell do pure (.truth ((names.get x).isSame (names.get y)))
  | .compare x y c => tell do pure (.truth (← (names.get x).richCompare (names.get y) c))
  | .equals x y => tell do pure (.truth (← (names.get x).equals (names.get y)))
  | .partialCompare x y => tell do pure (.order (← (names.get x).partialCompare (names.get y)))
  | .getAttr target x name => keep target ((names.get x).getAttr name)
  | .hasAttr x name => tell do pure (.truth (← (names.get x).hasAttr name))
  | .setAttr x name value => tell do
    (names.get x).setAttr name (names.get value)
    pure .nothing
  | .getItem target x key =>
    let v : HostValue := match key with
      | .value v => v
      | .handle y => .handle (names.get y)
    keep target ((names.get x).getItem v)
  | .repr x => tell do pure (.text (← (names.get x).repr))
  | .str x => tell do pure (.text (← (names.get x).str))
  | .typeName x => tell do pure (.text (← (names.get x).typeName))
  | .getType target x => keep target (names.get x).getType
  | .isNone x => tell do pure (.truth (names.get x).isNone)
  | .isTruthy x => tell do pure (.truth (← (names.get x).isTruthy))
  | .hash x => tell do pure (.number (← (names.get x).hash))
  | .referenceCount x => tell do pure (.number (← (names.get x).referenceCount))
  | .isDisposed x => tell do pure (.truth (names.get x).disposed)
  | .isImmortal x => tell do pure (.truth (names.get x).isImmortal)
  | .extract x t => tell do pure (.value (← shown (← (names.get x).extract t)))
  | .call target f arguments => keep target ((names.get f).call (named arguments))
  | .callMethod target x name arguments =>
    keep target ((names.get x).callMethod name (named arguments))
  | .callWithKeywords target f arguments keywords values extra =>
    keep target ((names.get f).callWithKeywords (named arguments) keywords (named values)
      (extra.map names.get))
  | .checkPending => tell do
    Op.checkPending
    pure .nothing
  | .pending notice exception => tell do
    Op.guarded do
      raise names exception
      let first ← Op.caught notice.take
      let second ← Op.caught Op.checkPending
      pure (.notices first second)
  | .describeException x => tell do
    pure (.exception (← PythonError.ofException (names.get x)))
  | .importModule target name => keep target (Host.importModule name)
  | .evaluateAlone target expression => keep target (Host.evaluateAlone expression)
  | .newGlobals target => keep target Host.newGlobals
  | .evaluate target globals expression =>
    keep target (Host.evaluate expression (names.get globals))
  | .execute globals code => tell do
    Host.execute code (names.get globals)
    pure .nothing
  | .liveProbes => tell do pure (.number (← Op.host).liveProbes)

/-- What a script came to: an answer for each action, the names of the handles that were left, the
probes alive after dropping them, and the depth of the thread. -/
structure Report where
  answers : List (Except Failure Answer)
  left : List String
  live : Nat
  depth : Nat
  deriving Inhabited

/-- Performs actions in order. A failed action changes no names. -/
def actAll (names : Names) : List Action → Op (List (Except Failure Answer) × Names)
  | [] => pure ([], names)
  | a :: rest => do
    match (← Op.caught (act names a)) with
    | .ok (answer, names) => do
      let (answers, names) ← actAll names rest
      pure (.ok answer :: answers, names)
    | .error f => do
      let (answers, names) ← actAll names rest
      pure (.error f :: answers, names)

/-- Performs a whole script, under the lock throughout or not. -/
def script (locked : Bool) (actions : List Action) : Op Report := do
  let body : Op Report := do
    let (answers, names) ← actAll [] actions
    Handle.dropAll (names.map (·.2))
    let left := (names.map (·.1)).mergeSort fun a b => !(b < a)
    pure ⟨answers, left, (← Op.host).liveProbes, 0⟩
  let report ← if locked then Op.guarded body else body
  pure { report with depth := (← Op.host).lock.depth (← Op.thread) }

/-- Runs a script in a process of its own. -/
def runScript (locked : Bool) (actions : List Action) : Except Failure Report :=
  ((script locked actions).perform 0 Host.fresh).1

end EmbeddedPython.HandleScript
