import EmbeddedPython.Handle.Basic

/-
  Translation of exceptions

  Whoever sees a call fail fetches the pending exception and turns it into an
  error of the host: the name of its type and its text. Asking for these runs
  code of the program, which may fail in turn; such failures are fetched the
  same way and leave a placeholder. Each translation works at one level less
  than the one that it serves.
-/

namespace EmbeddedPython

namespace Eval

/-- The exception that a pending one stands for, as an object with its type. Making it may raise
another one, which is meant then. -/
def normalize (m : Machine) (p : Pending) : Eval (Ref × Ref) := do
  let value := p.value.getD Ref.none
  let memory ← memory
  if memory.isException value .baseException && memory.isInstance value p.cls then
    pure (memory.classOf value, value)
  else
    let arguments := match value, memory.valueOf value with
      | .static .none, _ => []
      | _, .tuple items => if memory.isKind value .tuple then items else [value]
      | _, _ => [value]
    let made ← caught do
      let e ← m.call p.cls arguments []
      if (← Eval.memory).isException e .baseException then pure e
      else
        let found := (← Eval.memory).classOf e
        typeError ("calling " ++ (← m.repr p.cls).toStringLossy
          ++ " should have returned an instance of BaseException, not "
          ++ (← m.repr found).toStringLossy)
    match made with
    | .ok e => pure (p.cls, e)
    | .error e => do pure ((← Eval.memory).classOf e, e)

/-- The text of a text object, as far as it can be written in UTF-8. -/
def utf8Of (r : Ref) : Eval String := do
  match (← valueOf r) with
  | .text t => do
    let _ ← utf8Bytes t
    pure t.toStringLossy
  | _ => typeError "bad argument type for built-in operation"

/-- The text of an object, as an object. -/
def strObject (m : Machine) (r : Ref) : Eval Ref := do newText (← m.str r)

def reprObject (m : Machine) (r : Ref) : Eval Ref := do newText (← m.repr r)

/-- Sets an exception of a class. What is no class of exceptions cannot be set. -/
def pendingOf (m : Machine) (cls value : Ref) : Eval Pending := do
  let memory ← memory
  if (memory.class? cls).isSome && memory.isSubclass cls (Ref.ofExceptionClass .baseException) then
    pure ⟨cls, some value⟩
  else
    let text := "_PyErr_SetObject: exception " ++ (← m.repr cls).toStringLossy
      ++ " is not a BaseException subclass"
    let e ← newException .systemError [← newString text]
    pure ⟨Ref.ofExceptionClass .systemError, some e⟩

end Eval

/-- What stands for the name of a type that cannot be read. -/
def unknownType : String := "<unknown>"

/-- What stands for a text that cannot be read. -/
def unprintable : String := "<unprintable exception>"

namespace Handle

/-- A handle to what a call returned; nothing means that it failed, and `fetch` says how. -/
def ownedBy (fetch : Op Error) : Option Ref → Op Handle
  | some r => do
    Op.hold r
    pure (adopt r)
  | Option.none => do Op.fail (← fetch)

/-- What a call answered; nothing means that it failed. -/
def answeredBy {α : Type} (fetch : Op Error) : Option α → Op α
  | some a => pure a
  | Option.none => do Op.fail (← fetch)

def getAttrBy (fetch : Op Error) (x : Handle) (name : String) : Op Handle := do
  let r ← x.live
  let name ← Op.ofExcept (terminated name)
  Op.guarded do ownedBy fetch (← Op.enter [r] (Eval.getAttr Machine.top r name))

/-- The text that a call returned. -/
def textBy (fetch : Op Error) (result : Option Ref) : Op String := do
  spend (← ownedBy fetch result) fun text => do
    answeredBy fetch (← Op.enter [text.ref] (Eval.utf8Of text.ref))

def strBy (fetch : Op Error) (x : Handle) : Op String := do
  let r ← x.live
  Op.guarded do textBy fetch (← Op.enter [r] (Eval.strObject Machine.top r))

def getTypeBy (fetch : Op Error) (x : Handle) : Op Handle := do
  let r ← x.live
  Op.guarded do ownedBy fetch (← Op.enter [r] (do pure ((← Eval.memory).classOf r)))

end Handle

namespace Op

/-- A description, or what stands for it when it fails. -/
def orElse (placeholder : String) (body : Op String) : Op String := do
  match (← attempt body) with
  | .ok s => pure s
  | .error _ => pure placeholder

theorem perform_orElse (placeholder : String) (body : Op String) (t : ThreadId) (h : Host) :
    (orElse placeholder body).perform t h =
      match body.perform t h with
      | (.ok s, k) => (.ok s, k)
      | (.error (.error _), k) => (.ok placeholder, k)
      | (.error f, k) => (.error f, k) := by
  rw [orElse, perform_bind, perform_attempt]
  rcases body.perform t h with ⟨(_ | _ | _) | _, _⟩ <;> rfl

/-- The name of a type of exceptions. -/
def describeType (fetch : Op Error) (cls : Handle) : Op String :=
  orElse unknownType do
    Handle.spend (← cls.getAttrBy fetch "__name__") fun name => name.strBy fetch

/-- The text of an exception. -/
def describeValue (fetch : Op Error) (value : Handle) : Op String :=
  orElse unprintable (value.strBy fetch)

/-- Tells an exception by its type and its text, and owns both meanwhile. -/
def describe (fetch : Op Error) (cls value : Ref) : Op Error := do
  hold cls
  hold value
  Handle.spend (Handle.adopt cls) fun cls =>
    Handle.spend (Handle.adopt value) fun value => do
      let typeName ← describeType fetch cls
      let text ← describeValue fetch value
      pure (.python ⟨typeName, text⟩)

/-- Tells an exception that has been fetched. -/
def tell (fetch : Op Error) (p : Pending) : Op Error := do
  -- normalizing never raises: a failure to make the exception takes its place
  match (← enter [] (Eval.normalize Machine.top p)) with
  | none => pure (.python ⟨unknownType, unprintable⟩)
  | some (cls, value) => describe fetch cls value

/-- Fetches the pending exception after a call that failed, at a level with so many below it. A
failure without an exception is a `SystemError`. -/
def fetchError : Nat → Op Error
  | 0 => failure .overflow
  | depth + 1 => guarded do
    match (← takePending) with
    | none =>
      pure (.python ⟨"SystemError", "a Python call failed without setting an exception"⟩)
    | some p => tell (fetchError depth) p

/-- How many translations may serve one another. -/
def translationDepth : Nat := 1000

/-- Fetches the pending exception after a call that failed. -/
def translate : Op Error := fetchError translationDepth

/-- A handle to what a call returned. -/
def owned (result : Option Ref) : Op Handle := Handle.ownedBy translate result

/-- What a call answered. -/
def answered {α : Type} (result : Option α) : Op α := Handle.answeredBy translate result

/-- A handle to an object that the host does not own; it takes a reference of its own. -/
def borrowed (result : Option Ref) : Op Handle := do
  match result with
  | some r => do
    passing [r]
    hold r
    pure (Handle.adopt r)
  | none => do fail (← translate)

/-- Lets the interpreter compute something, and translates what it raises. -/
def ask {α : Type} (refs : List Ref) (body : Eval α) : Op α := do answered (← enter refs body)

/-- Lets the interpreter make an object, and translates what it raises. -/
def request (refs : List Ref) (body : Eval Ref) : Op Handle := do owned (← enter refs body)

/-! Calls that answer by a number -/

/-- What a call answers that tells a failure by an answer of its own. -/
def enterOr {α : Type} (failed : α) (refs : List Ref) (body : Eval α) : Op α := do
  pure ((← enter refs body).getD failed)

/-- A status of -1 means that the call failed. -/
def checkStatus (status : Int) : Op Int := if status = -1 then do fail (← translate) else pure status

/-- A number that tells a failure is a number like others, unless an exception is pending. -/
def checkNumber {α : Type} [BEq α] (failed number : α) : Op α := do
  if number == failed && (← host).pending.isSome then fail (← translate) else pure number

/-- Lets the interpreter do something that answers by a status. -/
def askStatus (refs : List Ref) (body : Eval Int) : Op Int := do
  checkStatus (← enterOr (-1) refs body)

/-- Lets the interpreter do something whose status says no more than that it is done. -/
def askDone (refs : List Ref) (body : Eval Unit) : Op Unit := do
  let _ ← askStatus refs (do body; pure 0)

/-- Lets the interpreter decide something; its status is 1 or 0. -/
def askTruth (refs : List Ref) (body : Eval Bool) : Op Bool := do
  pure ((← askStatus refs (do pure (if ← body then 1 else 0))) == 1)

/-- Lets the interpreter compute a number of which one tells a failure. -/
def askNumber {α : Type} [BEq α] (failed : α) (refs : List Ref) (body : Eval α) : Op α := do
  checkNumber failed (← enterOr failed refs body)

/-- Translates the pending exception, if there is one. -/
def checkPending : Op Unit := guarded do
  match (← host).pending with
  | none => pure ()
  | some _ => do fail (← translate)

/-- Sets an exception of a class with a value. -/
def raisePending (cls value : Ref) : Op Unit := do
  match (← enter [cls, value] (Eval.pendingOf Machine.top cls value)) with
  | some p => setPending (some p)
  | none => pure ()

end Op

/-- Translates an exception object. -/
def PythonError.ofException (x : Handle) : Op PythonError := do
  let typeName ← match (← Op.attempt (x.getTypeBy Op.translate)) with
    | .ok cls => cls.spend (Op.describeType Op.translate)
    | .error _ => pure unknownType
  pure ⟨typeName, ← Op.describeValue Op.translate x⟩

end EmbeddedPython
