/-!
# Calls in locked sections

A call on shared state is a sequence of sections. Each section runs as one step, under at most one
lock; between two sections other calls may run theirs. What a section reads from outside the state
(the clock, a fresh token) is handed to it when it runs.

Calls on their own are run from end to end; a schedule interleaves the sections of several.
-/

namespace ChatService

universe u v

variable {σ ι κ : Type} {α : Type u} {β : Type v}

/-- A call on a state `σ` that reads inputs `ι`, locks `κ` and answers `α`. -/
inductive Call (σ ι κ : Type) (α : Type u) : Type u where
  | done (answer : α)
  /-- One section: how it changes the state, and what the call does afterwards, seen from the state
      that the section found. -/
  | step (lock : Option κ) (effect : ι → σ → σ) (next : ι → σ → Call σ ι κ α)

namespace Call

/-- A section that decides on the state it leaves and on the rest of the call together. -/
def locked (lock : κ) (body : ι → σ → σ × Call σ ι κ α) : Call σ ι κ α :=
  .step (some lock) (fun i s => (body i s).1) fun i s => (body i s).2

/-- A section under no lock. -/
def atomic (body : ι → σ → σ × Call σ ι κ α) : Call σ ι κ α :=
  .step none (fun i s => (body i s).1) fun i s => (body i s).2

/-- A section under no lock that only looks. -/
def look (body : σ → Call σ ι κ α) : Call σ ι κ α := .step none (fun _ s => s) fun _ s => body s

/-- A locked section that only looks. -/
def lookLocked (lock : κ) (body : σ → Call σ ι κ α) : Call σ ι κ α :=
  .step (some lock) (fun _ s => s) fun _ s => body s

/-- A call whose answer is put into another form. -/
def map (f : α → β) : Call σ ι κ α → Call σ ι κ β
  | .done answer => .done (f answer)
  | .step lock effect next => .step lock effect fun i s => map f (next i s)

/-- Runs all sections of a call one after the other with the same input. -/
def run (input : ι) : Call σ ι κ α → σ → σ × α
  | .done answer, s => (s, answer)
  | .step _ effect next, s => run input (next input s) (effect input s)

/-- Runs the next section of a call; a finished call does nothing. -/
def advance (input : ι) : Call σ ι κ α → σ → σ × Call σ ι κ α
  | .done answer, s => (s, .done answer)
  | .step _ effect next, s => (effect input s, next input s)

/-- The answer of a finished call. -/
def answer? : Call σ ι κ α → Option α
  | .done answer => some answer
  | .step .. => none

/-- The lock that the next section takes. -/
def nextLock? : Call σ ι κ α → Option κ
  | .done _ => none
  | .step lock _ _ => lock

end Call

/-- One step of a schedule: which call runs its next section, and what that section reads. -/
structure Turn (ι : Type) where
  call : Nat
  input : ι

/-- Runs the next section of the call whose turn it is. -/
def Turn.run (turn : Turn ι) (s : σ) (calls : List (Call σ ι κ α)) : σ × List (Call σ ι κ α) :=
  match calls[turn.call]? with
  | none => (s, calls)
  | some call =>
    let (s, call) := call.advance turn.input s
    (s, calls.set turn.call call)

/-- Interleaves calls as a schedule says. -/
def runSchedule (schedule : List (Turn ι)) (s : σ) (calls : List (Call σ ι κ α)) :
    σ × List (Call σ ι κ α) :=
  schedule.foldl (fun (s, calls) turn => turn.run s calls) (s, calls)

end ChatService
