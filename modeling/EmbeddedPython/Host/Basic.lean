import EmbeddedPython.Interpreter.Call
import EmbeddedPython.Lock.Basic
import EmbeddedPython.Log

/-
  Operations of the host

  The host works on an interpreter from outside. It keeps one entry in `held`
  for each reference that it owns, calls in under the lock, and learns of a
  failure by a call that returns nothing and leaves an exception pending. An
  operation ends with a value or fails, and what it opened is closed on every
  path: `Op.guarded` gives the lock back and `Op.ensuring` runs its last part
  whatever happened before. No operation initializes or finalizes the
  interpreter that it works on; `Host.Becomes` says so, and `Op` carries it.
-/

namespace EmbeddedPython

/-- An exception that is set and has not been fetched. Its value need not be an exception object
yet. -/
structure Pending where
  cls : Ref
  value : Option Ref
  deriving DecidableEq, Repr, Inhabited

/-- The state of the process as the host sees it. -/
structure Host where
  lock : Lock
  memory : Memory
  /-- the references that the host owns, one entry for each; the singletons are not counted -/
  held : List Ref
  pending : Option Pending
  log : List LogMessage
  /-- the first cell that the initialized interpreter made -/
  born : Nat
  /-- the references that were handed to an interpreter that did not make them, latest first -/
  strays : List Ref
  /-- the exceptions that calls have left pending, latest first -/
  raised : List Pending
  deriving Inhabited

namespace Host

/-- A process without an interpreter. -/
def absent : Host := ⟨Lock.absent, Memory.fresh, [], none, [], 0, [], []⟩

/-- A process whose interpreter has been initialized. -/
def fresh : Host := { absent with lock := { Lock.absent with interpreter := some 0 } }

/-- What the host and a pending exception hold on to. -/
def roots (h : Host) : List Ref :=
  h.held ++ (match h.pending with
    | none => []
    | some p => p.cls :: p.value.toList)

/-- How many times an object is held. -/
def referenceCount (h : Host) (r : Ref) : Nat := h.memory.referenceCount h.roots r

def liveProbes (h : Host) : Nat := h.memory.liveProbes h.roots

/-- Whether a reference is to an object of the initialized interpreter. -/
def isCurrent (h : Host) : Ref → Bool
  | .static _ => true
  | .cell id => h.born ≤ id

end Host

/-- How an operation of the host fails. -/
inductive Failure where
  | error (e : Error)
  | panic (text : String)
  /-- the operation used up the stack -/
  | overflow
  deriving DecidableEq, Repr, Inhabited

/-- What a host may become by an operation: the interpreter stays, its memory evolves by its own
rules, and what it has raised is not forgotten. -/
structure Host.Becomes (h k : Host) : Prop where
  interpreter : k.lock.interpreter = h.lock.interpreter
  born : k.born = h.born
  memory : h.memory.Evolves k.memory
  raised : h.raised <:+ k.raised

namespace Host.Becomes

theorem of_memory_eq {h k : Host} (interpreter : k.lock.interpreter = h.lock.interpreter)
    (born : k.born = h.born) (memory : k.memory = h.memory) (raised : k.raised = h.raised) :
    h.Becomes k :=
  ⟨interpreter, born, memory ▸ .refl _, raised ▸ List.suffix_refl _⟩

theorem refl (h : Host) : h.Becomes h := .of_memory_eq rfl rfl rfl rfl

theorem trans {g h k : Host} (gh : g.Becomes h) (hk : h.Becomes k) : g.Becomes k :=
  ⟨hk.interpreter.trans gh.interpreter, hk.born.trans gh.born, gh.memory.trans hk.memory,
    gh.raised.trans hk.raised⟩

end Host.Becomes

/-- An operation that a thread of the host performs. -/
structure Op (α : Type) where
  perform : ThreadId → Host → Except Failure α × Host
  keeps : ∀ (t : ThreadId) (h : Host), h.Becomes (perform t h).2

namespace Op

instance {α : Type} : Inhabited (Op α) :=
  ⟨⟨fun _ h => (.error .overflow, h), fun _ h => .refl h⟩⟩

@[ext] theorem ext {α : Type} {a b : Op α}
    (h : ∀ (t : ThreadId) (x : Host), a.perform t x = b.perform t x) : a = b := by
  cases a
  cases b
  congr
  funext t x
  exact h t x

/-- Ends at once with a result. -/
@[inline] def done {α : Type} (result : Except Failure α) : Op α where
  perform _ h := (result, h)
  keeps _ h := .refl h

/-- Goes on with what an operation came to. -/
@[inline] def andThen {α β : Type} (body : Op α) (next : Except Failure α → Op β) : Op β where
  perform t h :=
    let (result, h) := body.perform t h
    (next result).perform t h
  keeps t h := (body.keeps t h).trans ((next _).keeps t _)

instance : Monad Op where
  pure a := done (.ok a)
  bind body next := body.andThen fun
    | .ok a => next a
    | .error f => done (.error f)

@[simp] theorem perform_pure {α : Type} (a : α) (t : ThreadId) (h : Host) :
    (pure a : Op α).perform t h = (.ok a, h) := rfl

theorem perform_andThen {α β : Type} (body : Op α) (next : Except Failure α → Op β) (t : ThreadId)
    (h : Host) : (body.andThen next).perform t h =
      (next (body.perform t h).1).perform t (body.perform t h).2 := rfl

theorem perform_bind {α β : Type} (body : Op α) (next : α → Op β) (t : ThreadId) (h : Host) :
    (body >>= next).perform t h =
      match body.perform t h with
      | (.ok a, k) => (next a).perform t k
      | (.error f, k) => (.error f, k) := by
  simp only [bind, perform_andThen]
  rcases body.perform t h with ⟨_ | _, _⟩ <;> rfl

protected theorem map_id {α : Type} (body : Op α) : id <$> body = body := by
  apply ext
  intro t h
  show (body >>= fun a => pure a).perform t h = _
  rw [perform_bind]
  rcases body.perform t h with ⟨_ | _, _⟩ <;> rfl

protected theorem bind_assoc {α β γ : Type} (body : Op α) (f : α → Op β) (g : β → Op γ) :
    body >>= f >>= g = body >>= fun a => f a >>= g := by
  apply ext
  intro t h
  simp only [perform_bind]
  rcases body.perform t h with ⟨_ | a, k⟩ <;> rfl

instance : LawfulMonad Op := .mk' Op Op.map_id (fun _ _ => rfl) Op.bind_assoc

/-- Fails in a given way. -/
def failure {α : Type} (f : Failure) : Op α := done (.error f)

def fail {α : Type} (e : Error) : Op α := failure (.error e)

def panic {α : Type} (text : String) : Op α := failure (.panic text)

/-- The state of the process. -/
def host : Op Host where
  perform _ h := (.ok h, h)
  keeps _ h := .refl h

/-- The thread that performs the operation. -/
def thread : Op ThreadId where
  perform t h := (.ok t, h)
  keeps _ h := .refl h

/-- Changes the state of the process. -/
@[inline] def update (f : Host → Host) (keeps : ∀ h : Host, h.Becomes (f h)) : Op Unit where
  perform _ h := (.ok (), f h)
  keeps _ h := keeps h

def memory : Op Memory := do pure (← host).memory

def note (m : LogMessage) : Op Unit :=
  update (fun h => { h with log := h.log ++ [m] }) fun _ => .of_memory_eq rfl rfl rfl rfl

/-- The result of a check. -/
def ofExcept {α : Type} : Except Error α → Op α
  | .ok a => pure a
  | .error e => fail e

/-- Runs a last part after an operation, whatever came of it. A failure of the last part takes the
place of that of the operation. -/
def ensuring {α : Type} (body : Op α) (last : Op Unit) : Op α :=
  body.andThen fun result => last.andThen fun
    | .ok _ => done result
    | .error f => failure f

/-- Runs a last part only when an operation failed, in whatever way. -/
def onFailure {α : Type} (body : Op α) (last : Op Unit) : Op α :=
  body.andThen fun
    | .ok a => pure a
    | .error f => last.andThen fun
      | .ok _ => failure f
      | .error g => failure g

/-- An operation with its error as a value. Panics go on. -/
def attempt {α : Type} (body : Op α) : Op (Except Error α) :=
  body.andThen fun
    | .ok a => pure (.ok a)
    | .error (.error e) => pure (.error e)
    | .error f => failure f

theorem perform_attempt {α : Type} (body : Op α) (t : ThreadId) (h : Host) :
    (attempt body).perform t h =
      match body.perform t h with
      | (.ok a, k) => (.ok (.ok a), k)
      | (.error (.error e), k) => (.ok (.error e), k)
      | (.error f, k) => (.error f, k) := by
  rw [attempt, perform_andThen]
  rcases body.perform t h with ⟨(_ | _ | _) | _, _⟩ <;> rfl

/-- An operation with its failure as a value, panics included. Nothing comes after a stack that is
used up. -/
def caught {α : Type} (body : Op α) : Op (Except Failure α) :=
  body.andThen fun
    | .error .overflow => failure .overflow
    | result => pure result

/-- Performs an operation on another thread and waits for it. -/
def onThread {α : Type} (t : ThreadId) (body : Op α) : Op α where
  perform _ h := body.perform t h
  keeps _ h := body.keeps t h

/-! The lock -/

/-- Takes the lock, or panics when there is no interpreter. -/
def acquire : Op Unit where
  perform t h :=
    match h.lock.tryAcquire t with
    | .ok lock => (.ok (), { h with lock := lock })
    | .error e => (.error (.panic (Lock.acquirePanic e)), h)
  keeps t h := by
    split
    · next lock hl => exact .of_memory_eq (Lock.tryAcquire_interpreter hl) rfl rfl rfl
    · exact .refl h

/-- Gives one level of the lock back. The answer is whether there was none. -/
def giveBack : Op Bool where
  perform t h :=
    let (warned, lock) := h.lock.release t
    (.ok warned, { h with lock := lock })
  keeps t h := .of_memory_eq (h.lock.release_interpreter t) rfl rfl rfl

/-- Gives one level of the lock back. -/
def release : Op Unit := do
  if ← giveBack then note (.warning Lock.unbalancedWarning)

/-- Performs an operation under the lock. -/
def guarded {α : Type} (body : Op α) : Op α := do
  acquire
  ensuring body release

/-- Gives up the ownership of the thread for a while. -/
def suspend : Op (Option Lock.Suspension) where
  perform t h :=
    let (suspension, lock) := h.lock.suspend t
    (.ok suspension, { h with lock := lock })
  keeps t h := .of_memory_eq (h.lock.suspend_interpreter t) rfl rfl rfl

/-- Puts the ownership of the thread back. -/
def resume : Option Lock.Suspension → Op Unit
  | none => pure ()
  | some levels => do
    let t ← thread
    update (fun h => { h with lock := h.lock.resume t levels })
      fun h => .of_memory_eq (h.lock.resume_interpreter t levels) rfl rfl rfl

/-- Performs an operation with the ownership of the thread suspended. -/
def allowingThreads {α : Type} (body : Op α) : Op α := do
  let suspension ← suspend
  ensuring body (resume suspension)

/-! Owning references -/

/-- Owns one more reference. -/
def hold (r : Ref) : Op Unit :=
  update (fun h => if r.isImmortal then h else { h with held := r :: h.held })
    fun h => by split <;> exact .of_memory_eq rfl rfl rfl rfl

/-- Owns one reference less. -/
def letGo (r : Ref) : Op Unit :=
  update (fun h => if r.isImmortal then h else { h with held := h.held.erase r })
    fun h => by split <;> exact .of_memory_eq rfl rfl rfl rfl

/-! Calling in -/

/-- Notes references that the interpreter did not make. -/
def passing (refs : List Ref) : Op Unit :=
  update (fun h =>
    { h with strays := (refs.filter fun r => !h.isCurrent r).reverse ++ h.strays })
    fun _ => .of_memory_eq rfl rfl rfl rfl

/-- Lets the interpreter compute something. It returns nothing when it raised, and the exception
is pending then. -/
def run {α : Type} (body : Eval α) : Op (Option α) where
  perform _ h :=
    match body.run h.memory with
    | (.ok a, m) => (.ok (some a), { h with memory := m })
    | (.error e, m) =>
      let p : Pending := ⟨m.classOf e, some e⟩
      (.ok none, { h with memory := m, pending := some p, raised := p :: h.raised })
  keeps _ h := by
    have evolves := body.evolves h.memory
    split <;> rename_i hr <;> rw [hr] at evolves
    · exact ⟨rfl, rfl, evolves, List.suffix_refl _⟩
    · exact ⟨rfl, rfl, evolves, List.suffix_cons _ _⟩

/-- Lets the interpreter compute something of objects. -/
def enter {α : Type} (refs : List Ref) (body : Eval α) : Op (Option α) := do
  passing refs
  run body

/-- Sets the pending exception, or none. -/
def setPending (p : Option Pending) : Op Unit :=
  update (fun h => { h with pending := p }) fun _ => .of_memory_eq rfl rfl rfl rfl

/-- Takes the pending exception. -/
def takePending : Op (Option Pending) := do
  let p := (← host).pending
  setPending none
  pure p

end Op

end EmbeddedPython
