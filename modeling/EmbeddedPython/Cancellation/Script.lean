import EmbeddedPython.Cancellation.Signal

/-
  Scripts over cancellation signals

  A script makes sources and tokens, registers callbacks that are scripts
  themselves, and cancels. Callbacks run on the thread that cancels, so a
  running script is a stack of frames: `step` performs the next action of the
  top frame, and `run` takes steps until the stack is empty or a panic has
  unwound it. Each step uses up an action of a frame or of a waiting callback,
  which bounds the steps of a run.
-/

namespace EmbeddedPython.Cancellation

/-- An action of a script. -/
inductive Action where
  | newSource (source : String)
  | newToken (token source : String)
  | neverToken (token : String)
  | cloneToken (token original : String)
  | dropSource (source : String)
  | dropToken (token : String)
  | register (registration token : String) (callback : List Action)
  | giveUp (registration : String)
  | cancel (source : String)
  | isRequested (token : String)
  | isSourceRequested (source : String)
  | canBeCanceled (token : String)
  | describeToken (token : String)
  | describeSource (source : String)
  | log (text : String)
  | panic (text : String)

/-- What an action answers. -/
inductive Answer where
  | nothing
  | truth (b : Bool)
  | text (s : String)
  | panicked (s : String)
  deriving DecidableEq, Repr, Inhabited

/-- An entry of a script's log: a text it logged, or the answer of an action in a callback. -/
inductive LogEntry where
  | text (s : String)
  | answer (a : Answer)
  deriving DecidableEq, Repr, Inhabited

mutual
/-- The steps that an action can take, those of its callback included. -/
def Action.weight : Action → Nat
  | .register _ _ callback => 3 + Action.weights callback
  | _ => 2
/-- The steps that a list of actions can take. -/
def Action.weights : List Action → Nat
  | [] => 1
  | a :: rest => a.weight + Action.weights rest
end

/-- The table of a script: what its names mean, and the signals behind them. -/
structure Table where
  signals : Signals (List Action)
  sources : List (String × Nat)
  tokens : List (String × Token)
  registrations : List (String × Registration)
  log : List LogEntry

namespace Table

def empty : Table := ⟨#[], [], [], [], []⟩

instance : Inhabited Table := ⟨empty⟩

/-- Gives a name a meaning, in place of an older one. -/
def bind {α : Type} (name : String) (value : α) (names : List (String × α)) : List (String × α) :=
  (name, value) :: names.filter (·.1 != name)

def unbind {α : Type} (name : String) (names : List (String × α)) : List (String × α) :=
  names.filter (·.1 != name)

def source? (t : Table) (name : String) : Option Nat := t.sources.lookup name

def token? (t : Table) (name : String) : Option Token := t.tokens.lookup name

/-- Gives up a registration. Callbacks of scripts own none, so it never blocks. -/
def giveUp (t : Table) (r : Registration) : Table :=
  match withdraw r t.signals with
  | .done signals => { t with signals := signals }
  | .deadlock _ => t

/-- Stores a registration under a name and then gives up the older one of that name. -/
def storeRegistration (t : Table) (name : String) (r : Registration) : Table :=
  let older := t.registrations.lookup name
  let t := { t with registrations := bind name r t.registrations }
  match older with
  | none => t
  | some old => t.giveUp old

end Table

/-- A frame of a running script. -/
inductive Frame where
  /-- a callback with the actions it has yet to perform; their answers are logged -/
  | body (actions : List Action)
  /-- the callbacks that the cancellation of a signal has yet to run -/
  | cancelling (signal : Nat) (callbacks : List (Waiting (List Action)))
  /-- a registration that ran its callback at once and has yet to be stored -/
  | registering (name : String)

/-- The steps that a frame can take. -/
def Frame.weight : Frame → Nat
  | .body actions => Action.weights actions
  | .cancelling _ callbacks =>
    (callbacks.map fun w => Action.weights w.callback + 1).foldr (· + ·) 0 + 1
  | .registering _ => 1

/-- A running script: its frames, innermost first, its table, and the answer of the outermost
action once the stack is empty. -/
structure Running where
  stack : List Frame
  table : Table
  answer : Answer

namespace Running

/-- The steps that a running script can take. -/
def weight (r : Running) : Nat :=
  (r.stack.map Frame.weight).foldr (· + ·) 0
    + (r.table.signals.toList.map fun s =>
        (s.waiting.map fun w => Action.weights w.callback + 1).foldr (· + ·) 0).foldr (· + ·) 0

/-- Delivers an answer: to the log when a callback is running, else to the caller. -/
def deliver (r : Running) (a : Answer) : Running :=
  match r.stack, a with
  | [], _ => { r with answer := a }
  | _, .nothing => r
  | _, a => { r with table := { r.table with log := r.table.log ++ [.answer a] } }

/-- Unwinds the whole stack. -/
def unwind (r : Running) (text : String) : Running :=
  { r with stack := [], answer := .panicked text }

/-- Performs an action. `r.stack` is the stack above which the action runs. -/
def perform (r : Running) : Action → Running
  | .newSource s =>
    let t := r.table
    deliver { r with table := { t with
      signals := t.signals.push Signal.fresh
      sources := Table.bind s t.signals.size t.sources } } .nothing
  | .newToken name s =>
    let token : Token := ⟨r.table.source? s⟩
    deliver { r with table := { r.table with tokens := Table.bind name token r.table.tokens } } .nothing
  | .neverToken name =>
    deliver { r with table := { r.table with tokens := Table.bind name Token.never r.table.tokens } }
      .nothing
  | .cloneToken name original =>
    let token := (r.table.token? original).getD Token.never
    deliver { r with table := { r.table with tokens := Table.bind name token r.table.tokens } } .nothing
  | .dropSource s =>
    deliver { r with table := { r.table with sources := Table.unbind s r.table.sources } } .nothing
  | .dropToken name =>
    deliver { r with table := { r.table with tokens := Table.unbind name r.table.tokens } } .nothing
  | .register name token callback =>
    match (r.table.token? token).bind (·.signal) with
    | none =>
      deliver { r with table := r.table.storeRegistration name Registration.nothing }
        (.text Registration.nothing.describe)
    | some i =>
      let (id?, signal) := (r.table.signals.getD i Signal.fresh).register callback []
      let t := { r.table with signals := r.table.signals.setIfInBounds i signal }
      match id? with
      | none => { r with table := t, stack := .body callback :: .registering name :: r.stack }
      | some id =>
        let registration : Registration := ⟨some i, id⟩
        deliver { r with table := t.storeRegistration name registration } (.text registration.describe)
  | .giveUp name =>
    match r.table.registrations.lookup name with
    | none => deliver r (.truth false)
    | some registration =>
      let t := { r.table with registrations := Table.unbind name r.table.registrations }
      deliver { r with table := t.giveUp registration } (.truth true)
  | .cancel s =>
    match r.table.source? s with
    | none => deliver r .nothing
    | some i =>
      let (callbacks, signal) := (r.table.signals.getD i Signal.fresh).raise
      let t := { r.table with signals := r.table.signals.setIfInBounds i signal }
      { r with table := t, stack := .cancelling i callbacks :: r.stack }
  | .isRequested name =>
    deliver r (.truth (((r.table.token? name).getD Token.never).isRequested r.table.signals))
  | .isSourceRequested s =>
    deliver r (.truth ((Token.mk (r.table.source? s)).isRequested r.table.signals))
  | .canBeCanceled name => deliver r (.truth ((r.table.token? name).getD Token.never).canBeCanceled)
  | .describeToken name =>
    deliver r (.text (((r.table.token? name).getD Token.never).describe r.table.signals))
  | .describeSource s =>
    deliver r (.text (Cancellation.describeSource
      ((Token.mk (r.table.source? s)).isRequested r.table.signals)))
  | .log text =>
    deliver { r with table := { r.table with log := r.table.log ++ [.text text] } } .nothing
  | .panic text => r.unwind text

/-- One step of a running script; `none` when nothing is left to run. -/
def step (r : Running) : Option Running :=
  match r.stack with
  | [] => none
  | .body [] :: rest => some { r with stack := rest }
  | .body (a :: actions) :: rest => some (perform { r with stack := .body actions :: rest } a)
  | .cancelling _ [] :: rest => some (deliver { r with stack := rest } .nothing)
  | .cancelling i (w :: callbacks) :: rest =>
    some { r with stack := .body w.callback :: .cancelling i callbacks :: rest }
  | .registering name :: rest =>
    let t := r.table.storeRegistration name Registration.nothing
    some (deliver { r with stack := rest, table := t } (.text Registration.nothing.describe))

/-- Takes at most `fuel` steps. -/
def run : Nat → Running → Running
  | 0, r => r
  | fuel + 1, r =>
    match step r with
    | none => r
    | some next => run fuel next

end Running

/-- What one action of a script answers, and what was logged meanwhile. -/
structure Report where
  answer : Answer
  log : List LogEntry
  deriving Repr, Inhabited

/-- Performs one action at the outermost level, with all callbacks that it runs. -/
def Table.perform (t : Table) (a : Action) : Report × Table :=
  let started := Running.perform ⟨[], { t with log := [] }, .nothing⟩ a
  let ended := started.run (started.weight + 1)
  (⟨ended.answer, ended.table.log⟩, { ended.table with log := [] })

/-- Performs the actions of a script in order. -/
def runScript (actions : List Action) : List Report :=
  (actions.foldl (fun (acc : List Report × Table) a =>
    let (report, table) := acc.2.perform a
    (report :: acc.1, table)) ([], Table.empty)).1.reverse

end EmbeddedPython.Cancellation
