import EmbeddedPython.Text.Quoted

/-
  Cancellation signals

  A signal is raised at most once. Callbacks wait on it until it is raised or
  until their registration is given up. Raising a signal takes the whole list
  of callbacks at once and hands it to the caller, who runs them with the list
  unlocked; a callback registered on a raised signal is handed back at once.

  A callback may own registrations of its own. They are given up when the
  callback is discarded, and a callback that is discarded because its
  registration was given up is discarded while the list is still locked.
-/

namespace EmbeddedPython.Cancellation

/-- A registered callback: the signal it waits on, by number, and its number on that signal.
Without a signal it is the registration of nothing. -/
structure Registration where
  signal : Option Nat
  id : Nat
  deriving DecidableEq, Repr, Inhabited

namespace Registration

/-- The registration of nothing. -/
def nothing : Registration := ⟨none, 0⟩

def describe (r : Registration) : String := Text.record "Registration" [("id", toString r.id)]

end Registration

/-- What waits on a signal: a callback and the registrations that it owns. -/
structure Waiting (κ : Type) where
  id : Nat
  callback : κ
  owns : List Registration

/-- The state that a source shares with its tokens. -/
structure Signal (κ : Type) where
  raised : Bool
  nextId : Nat
  waiting : List (Waiting κ)

namespace Signal

variable {κ : Type}

/-- A signal that has not been raised. -/
def fresh : Signal κ := ⟨false, 1, []⟩

instance : Inhabited (Signal κ) := ⟨fresh⟩

/-- Raises the signal and takes the callbacks to run, in the order of their registration. A
raised signal has none left to take. -/
def raise (s : Signal κ) : List (Waiting κ) × Signal κ :=
  if s.raised then ([], s) else (s.waiting, { s with raised := true, waiting := [] })

/-- Adds a callback, or hands it back with `none` when the signal is already raised. The number
is used up either way. -/
def register (s : Signal κ) (callback : κ) (owns : List Registration) : Option Nat × Signal κ :=
  if s.raised then (none, { s with nextId := s.nextId + 1 })
  else (some s.nextId, { s with
    nextId := s.nextId + 1
    waiting := s.waiting ++ [⟨s.nextId, callback, owns⟩] })

/-- Takes one callback out of the list. -/
def withdraw (s : Signal κ) (id : Nat) : List (Waiting κ) × Signal κ :=
  (s.waiting.filter (·.id == id), { s with waiting := s.waiting.filter (·.id != id) })

end Signal

/-- The signals of a process, by number. -/
abbrev Signals (κ : Type) := Array (Signal κ)

/-- How giving up registrations ends. -/
inductive Withdrawal (κ : Type) where
  /-- all of them were given up -/
  | done (signals : Signals κ)
  /-- a thread waits for a list that it holds itself -/
  | deadlock (signal : Nat)

/-- Gives up registrations in turn. `locked` are the signals whose lists the thread holds; the
list of a registration's signal stays locked while its callback is discarded, and the callbacks
discarded take their own registrations with them. -/
def withdrawAll {κ : Type} : Nat → List Nat → List Registration → Signals κ → Withdrawal κ
  | 0, _, _, signals => .done signals
  | _, _, [], signals => .done signals
  | fuel + 1, locked, r :: rest, signals =>
    match r.signal with
    | none => withdrawAll fuel locked rest signals
    | some i =>
      if i ∈ locked then .deadlock i
      else
        let (discarded, signal) := (signals.getD i Signal.fresh).withdraw r.id
        let signals := signals.setIfInBounds i signal
        match withdrawAll fuel (i :: locked) (discarded.flatMap (·.owns)) signals with
        | .deadlock j => .deadlock j
        | .done signals => withdrawAll fuel locked rest signals

/-- Steps enough to give up one registration and everything its callback owns. -/
def withdrawalBound {κ : Type} (signals : Signals κ) : Nat :=
  signals.foldl (fun n s => n + (s.waiting.map fun w => w.owns.length + 1).foldr (· + ·) 0) 2

/-- Gives up a registration. -/
def withdraw {κ : Type} (r : Registration) (signals : Signals κ) : Withdrawal κ :=
  withdrawAll (withdrawalBound signals) [] [r] signals

/-- The observer's side of a signal; without a signal it is never cancelled. -/
structure Token where
  signal : Option Nat
  deriving DecidableEq, Repr, Inhabited

namespace Token

/-- The token that is never cancelled. -/
def never : Token := ⟨none⟩

def canBeCanceled (t : Token) : Bool := t.signal.isSome

/-- Whether the token's signal has been raised. -/
def isRequested {κ : Type} (t : Token) (signals : Signals κ) : Bool :=
  match t.signal with
  | none => false
  | some i => (signals.getD i Signal.fresh).raised

def describe {κ : Type} (t : Token) (signals : Signals κ) : String :=
  Text.record "CancellationToken" [("can_be_canceled", Text.ofBool t.canBeCanceled),
    ("cancelled", Text.ofBool (t.isRequested signals))]

end Token

/-- The described form of a source. -/
def describeSource (raised : Bool) : String :=
  Text.record "CancellationSource" [("cancelled", Text.ofBool raised)]

end EmbeddedPython.Cancellation
