import ChatService.Database.Command

/-!
# Programs over a database

A program asks for one thing after the other: the clock, a fresh id or token, a pause, a
transaction, or the answer to a command. What it does next depends on the answers, so it can be
run against any server, faults included, and its commands can be interleaved with those of others.
-/

namespace ChatService.Database

/-- A session holds at most one transaction at a time. -/
structure Session where
  number : Nat
deriving DecidableEq, Repr

/-- What a program can ask for, with the type of the answer. -/
inductive Ask : Type → Type 1 where
  /-- The clock, in milliseconds since 1970. -/
  | clock : Ask Int
  | freshId : Ask ObjectId
  | freshToken : Ask String
  | pause (length : Duration) : Ask Unit
  /-- A session with a new transaction. -/
  | begin : Ask (Except Failure Session)
  /-- The answer of the server to a command, within a transaction or outside. -/
  | send {α : Type} (session : Option Session) (command : Command α) : Ask (Except Failure α)

inductive Program (α : Type) : Type 1 where
  | done (answer : α)
  | ask {β : Type} (request : Ask β) (next : β → Program α)

namespace Program

variable {α β : Type}

/-- Goes on with another program after an answer. -/
def bind (f : α → Program β) : Program α → Program β
  | .done a => f a
  | .ask request next => .ask request fun answer => bind f (next answer)

instance : Monad Program where
  pure := .done
  bind program f := program.bind f

/-- The program that asks for one thing. -/
def asking (request : Ask α) : Program α := .ask request .done

/-- Runs a program with something that answers what it asks for. -/
def run {m : Type → Type} [Monad m] (answer : {β : Type} → Ask β → m β) : Program α → m α
  | .done a => pure a
  | .ask request next => do run answer (next (← answer request))

end Program

/-- A program that may fail as stores do. -/
abbrev Script (α : Type) : Type 1 := ExceptT StoreError Program α

namespace Script

variable {α : Type}

/-- An answer that is there already. -/
def ofExcept (answer : Except StoreError α) : Script α := .mk (pure answer)

/-- Asks for something that is always answered. -/
def asking (request : Ask α) : Script α := .lift (Program.asking request)

/-- The result of a command, its failure as one of the store. -/
def sent (answer : Except Failure α) : Except StoreError α :=
  answer.mapError Failure.toStoreError

/-- Sends a command, within a transaction or outside. -/
def send (session : Option Session) (command : Command α) : Script α :=
  .mk (sent <$> Program.asking (.send session command))

end Script

end ChatService.Database
