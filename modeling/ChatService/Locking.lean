import ChatService.Call

/-!
# Calls that take locks and release them

In a `Call` a locked section is one step.  Here a lock is taken in one step and released in another,
and whatever the call does in between it does while it holds the lock; a call that wants a lock
waits until no call holds it.  A lock is taken for the rest of a scope and released where the scope
ends, so scopes within one another hold several locks at a time.
-/

namespace ChatService

universe u v

variable {σ ι κ : Type} {α : Type u} {β : Type v}

/-- A call on a state `σ` that reads inputs `ι`, locks `κ` and answers `α`, one step at a time. -/
inductive Task (σ ι κ : Type) (α : Type u) : Type u where
  | done (answer : α)
  | acquire (lock : κ) (next : Task σ ι κ α)
  | release (lock : κ) (next : Task σ ι κ α)
  /-- A change of the state, and what the task does afterwards, seen from the state found. -/
  | act (effect : ι → σ → σ) (next : ι → σ → Task σ ι κ α)

namespace Task

/-- Goes on with another task after an answer. -/
def bind (f : α → Task σ ι κ β) : Task σ ι κ α → Task σ ι κ β
  | .done a => f a
  | .acquire lock next => .acquire lock (bind f next)
  | .release lock next => .release lock (bind f next)
  | .act effect next => .act effect fun i s => bind f (next i s)

/-- Changes the state and answers, in one step. -/
def now (body : ι → σ → σ × α) : Task σ ι κ α :=
  .act (fun i s => (body i s).1) fun i s => .done (body i s).2

/-- Looks at the state, in one step. -/
def look (body : σ → α) : Task σ ι κ α := .act (fun _ s => s) fun _ s => .done (body s)

/-- A scope under a lock: the lock is released once the task in the scope has answered. -/
def guarded (lock : κ) (scope : Task σ ι κ α) : Task σ ι κ α :=
  .acquire lock (bind (fun a => .release lock (.done a)) scope)

/-- A task whose answer is put into another form. -/
def map (f : α → β) (task : Task σ ι κ α) : Task σ ι κ β := bind (fun a => .done (f a)) task

end Task

/-- A task that is under way, and the locks that it holds. -/
structure Worker (σ ι κ : Type) (α : Type u) where
  task : Task σ ι κ α
  held : List κ := []

namespace Worker

def isFinished (worker : Worker σ ι κ α) : Bool :=
  match worker.task with
  | .done _ => true
  | _ => false

/-- The lock that the next step takes. -/
def awaits? (worker : Worker σ ι κ α) : Option κ :=
  match worker.task with
  | .acquire lock _ => some lock
  | _ => none

variable [DecidableEq κ]

/-- Whether a worker can take its next step: it has one, and no worker holds the lock that it is
    to take. -/
def canStep (workers : List (Worker σ ι κ α)) (worker : Worker σ ι κ α) : Bool :=
  !worker.isFinished &&
    match worker.awaits? with
    | some lock => workers.all fun other => lock ∉ other.held
    | none => true

/-- The next step of a worker. -/
def step (input : ι) (s : σ) (worker : Worker σ ι κ α) : σ × Worker σ ι κ α :=
  match worker.task with
  | .done a => (s, { worker with task := .done a })
  | .acquire lock next => (s, ⟨next, lock :: worker.held⟩)
  | .release lock next => (s, ⟨next, worker.held.erase lock⟩)
  | .act effect next => (effect input s, { worker with task := next input s })

end Worker

variable [DecidableEq κ]

/-- The next step of the worker whose turn it is, if it can take one; otherwise nothing happens. -/
def Turn.work (turn : Turn ι) (s : σ) (workers : List (Worker σ ι κ α)) :
    σ × List (Worker σ ι κ α) :=
  match workers[turn.call]? with
  | none => (s, workers)
  | some worker =>
    if worker.canStep workers then
      let (s, worker) := worker.step turn.input s
      (s, workers.set turn.call worker)
    else (s, workers)

/-- Interleaves workers as a schedule says. -/
def runWorkers (schedule : List (Turn ι)) (s : σ) (workers : List (Worker σ ι κ α)) :
    σ × List (Worker σ ι κ α) :=
  schedule.foldl (fun (s, workers) turn => turn.work s workers) (s, workers)

end ChatService
