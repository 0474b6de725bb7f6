import EmbeddedPython.Host.Translation

/-
  Asking objects through handles

  Every operation first looks whether its handles are live and then calls into
  the interpreter under the lock.
-/

namespace EmbeddedPython.Handle

open Op (askDone askTruth askStatus)

def getAttr (x : Handle) (name : String) : Op Handle := x.getAttrBy Op.translate name

/-- Whether an object has an attribute. Any failure to read it counts as a missing one. -/
def hasAttr (x : Handle) (name : String) : Op Bool := do
  let r ← x.live
  let name ← Op.ofExcept (terminated name)
  Op.guarded do
    let found ← Op.enter [r] (Eval.getAttr Machine.top r name)
    if found.isNone then
      let _ ← Op.takePending
    pure found.isSome

def setAttr (x : Handle) (name : String) (value : Handle) : Op Unit := do
  let r ← x.live
  let v ← value.live
  let name ← Op.ofExcept (terminated name)
  Op.guarded (askDone [r, v] (Eval.setAttr Machine.top r name v))

/-- The form of an object. -/
def repr (x : Handle) : Op String := do
  let r ← x.live
  Op.guarded do textBy Op.translate (← Op.enter [r] (Eval.reprObject Machine.top r))

/-- The text of an object. -/
def str (x : Handle) : Op String := x.strBy Op.translate

def getType (x : Handle) : Op Handle := x.getTypeBy Op.translate

/-- The name of the type of an object. -/
def typeName (x : Handle) : Op String := do
  spend (← x.getType) fun cls => do
    spend (← cls.getAttr "__name__") fun name => name.str

/-- The truth of an object. The singletons are known without asking. -/
def isTruthy (x : Handle) : Op Bool := do
  let r ← x.live
  if x.isImmortal then pure (r == Ref.ofBool true)
  else Op.guarded (askTruth [r] (Eval.truth Machine.top r))

def hash (x : Handle) : Op Int := do
  let r ← x.live
  Op.guarded (askStatus [r] (Machine.top.hash r))

/-- How many times the object is held. -/
def referenceCount (x : Handle) : Op Nat := do
  let r ← x.live
  Op.guarded do
    Op.passing [r]
    pure ((← Op.host).referenceCount r)

end EmbeddedPython.Handle
