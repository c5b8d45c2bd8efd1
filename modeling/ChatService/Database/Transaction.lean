import ChatService.Database.Program
import ChatService.Store.Retry

/-!
# Units of work

A unit of work is done in one transaction: committed when it succeeds, aborted when it fails. A
commit of which nobody knows whether it was carried out is sent again, a bounded number of times.
A unit that lost against another one is run again in a new transaction.
-/

namespace ChatService.Database

open Store (RetryPolicy Scope)

variable {α : Type}

/-- Sends a commit, and sends it again up to `left` times while its outcome is unknown. -/
def commit (session : Session) : (left : Nat) → Program (Except Failure Unit)
  | 0 => Program.asking (.send (some session) .commit)
  | left + 1 => do
    match ← Program.asking (.send (some session) .commit) with
    | .ok () => return .ok ()
    | .error f => if f.commitUnknown then commit session left else return .error f

/-- Ends the transaction of a unit of work with this result. A failure of the unit is its own,
    whatever becomes of the abort. -/
def finish (policy : RetryPolicy) (session : Session) (result : Except StoreError α) :
    Program (Except StoreError α) := do
  match result with
  | .ok value => return (Script.sent (← commit session (policy.maxAttempts - 1))).map fun _ => value
  | .error e =>
    let _ ← Program.asking (.send (some session) .abort)
    return .error e

/-- Runs a unit of work once, in a transaction of its own. -/
def once (policy : RetryPolicy) (work : Session → Script α) : Program (Except StoreError α) := do
  match ← Program.asking .begin with
  | .error f => return .error f.toStoreError
  | .ok session => finish policy session (← (work session).run)

/-- A pause. -/
def pause (length : Duration) : Program Unit := Program.asking (.pause length)

/-- Runs a unit of work that hands out a number, again and again until it does not conflict. -/
def inTransaction (policy : RetryPolicy) (scope : Scope) (work : Session → Script α) : Script α :=
  .mk (policy.allocate pause scope (once policy work))

end ChatService.Database
