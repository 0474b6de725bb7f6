import EmbeddedPython.Environment.System

/-
  What has been done in a run

  The journal of a process counts what happens to the requests that callers
  wait for. A history says more: it lists, in order, what has been done about
  every request and every task, with the numbers that belong to it. It is read
  off the states of a run, and nothing in the process depends on it.
-/

namespace EmbeddedPython

open Bridge

/-- Why a driver does not start the task of a request. -/
inductive Bridge.Refusal where
  /-- the driver is to stop -/
  | stopping
  /-- the cancellation of the task has been requested -/
  | requested
  /-- the task could not be set up -/
  | failed
  deriving DecidableEq, Repr

/-- What is done about a request or about a task. -/
inductive Deed where
  /-- a queue takes a request -/
  | push (l : LoopId) (r : Request)
  /-- a driver takes a request out of its queue -/
  | take (l : LoopId) (r : Request)
  /-- a request is taken out because the queue is closed -/
  | clear (l : LoopId) (r : Request)
  /-- a driver starts a task -/
  | start (l : LoopId) (task : TaskId) (promise : PromiseId) (token : Cancellation.Token)
  /-- a driver starts no task for a request -/
  | reject (l : LoopId) (promise : PromiseId) (why : Refusal)
  /-- a driver keeps track of a task that it has started -/
  | track (l : LoopId) (task : TaskId)
  /-- a task is asked to cancel -/
  | ask (l : LoopId) (task : TaskId)
  /-- the caller is told what a task came to, or that its loop has failed -/
  | finish (l : LoopId) (task : TaskId)
  deriving DecidableEq, Repr

/-- The tasks that a driver asks to cancel when it handles a request. -/
def Bridge.Driver.asked (d : Driver) : Request → List TaskId
  | .schedule _ _ _ => []
  | .cancel id => ((d.tasks.find? (·.id == id)).toList.map (·.id))
  | .stop => if d.stopping then [] else d.tasks.map (·.id)

/-- Why a driver starts no task, if it has started none. -/
def Bridge.Driver.refusal (d : Driver) (requested : Bool) : Refusal :=
  if d.stopping then .stopping else if requested then .requested else .failed

namespace Process

/-- Whether a queue takes what a thread pushes. -/
def takes (p : Process) (t : ThreadId) (l : LoopId) : Bool :=
  (p.loop l).notifier.isSome && canLock p t

/-- What a driver does by its next move. -/
def deeds (p : Process) (l : LoopId) : List Deed :=
  let d := (p.loop l).driver
  let next := ((Bridge.step l p).2.loop l).driver.phase
  match d.phase with
  | .entering | .iterating _ =>
    if next = .closing then d.tasks.map fun x => .finish l x.id else []
  | .draining =>
    match (p.loop l).requests with
    | [] => []
    | r :: _ => .take l r :: (d.asked r).map (.ask l)
  | .starting _ token i =>
    match next with
    | .registering _ _ x => [.start l x.id i token]
    | _ => [.reject l i (d.refusal (token.isRequested p.signals))]
  | .registering _ token x =>
    if token.isRequested p.signals && p.takes (driverThread l) l then [.push l (.cancel x.id)]
    else []
  | .accepting _ x =>
    .track l x.id :: if (p.promise x.promise).awaited then [] else [.ask l x.id]
  | .concluding n =>
    match d.tasks[n]? with
    | some x => if next = d.phase then [.finish l x.id] else []
    | none => []
  | .closing => (p.loop l).requests.map (.clear l)
  | .looping | .exited => []

end Process

namespace System

/-- What is done by an action. -/
def deeds (s : System) : Action → List Deed
  | .drive l => s.process.deeds l
  | .proceed n =>
    match s.chores[n]? with
    | some (t, .enqueue l r) => if s.process.takes t l then [.push l r] else []
    | _ => []
  | _ => []

/-- What is done by some actions. -/
def historyFrom (s : System) : List Action → List Deed
  | [] => []
  | a :: actions => s.deeds a ++ historyFrom (s.step a) actions

/-- What has been done in a run. -/
def history (attached : Bool) (actions : List Action) : List Deed :=
  historyFrom (initial attached) actions

theorem historyFrom_append (s : System) (as bs : List Action) :
    s.historyFrom (as ++ bs) = s.historyFrom as ++ (as.foldl step s).historyFrom bs := by
  induction as generalizing s with
  | nil => rfl
  | cons a as ih => simp [historyFrom, ih]

theorem history_append (attached : Bool) (as bs : List Action) :
    history attached (as ++ bs) = history attached as ++ (run attached as).historyFrom bs :=
  historyFrom_append _ as bs

theorem run_append (attached : Bool) (as bs : List Action) :
    run attached (as ++ bs) = bs.foldl step (run attached as) :=
  List.foldl_append

end System

end EmbeddedPython
