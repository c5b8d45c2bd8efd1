import ChatService.Proofs.Database.Documents
import ChatService.Proofs.Database.Faults
import ChatService.Proofs.Database.Ledger
import ChatService.Proofs.Database.Numbering
import Mathlib.Logic.Function.Basic

/-!
# A server with snapshot transactions

Many clients use one server.  A transaction sees the records as they were at its first command,
with its own writes, which nobody else sees before it is committed.  It writes no document that
another open transaction has written, nor one that was committed by another after its snapshot:
such a command is answered with a transient failure, and the transaction is undone.  A commit takes
effect at once and as a whole.

Besides, any command may be refused, and a commit may be answered in doubt.
-/

namespace ChatService.Database.Concurrent

open Server (Records recordsOf execute)
open Store (Operation Answer RetryPolicy Scope)

/-- A transaction in which a command was carried out. -/
structure Open where
  /-- The committed records at its first command. -/
  snapshot : Records
  /-- The snapshot with its own writes. -/
  view : Records
  /-- The documents that it has written. -/
  written : Key → Prop
  /-- The documents that others wrote and committed after its snapshot. -/
  overtaken : Key → Prop

/-- How far the transaction of a session has come. -/
inductive Phase where
  /-- The session was not handed out. -/
  | unused
  /-- No command was carried out. -/
  | begun
  | active (t : Open)
  | applied
  /-- Undone for good. -/
  | gone

/-- What a commit makes of a transaction depends on this only. -/
def Phase.status : Phase → Status
  | .begun | .active _ => .opened
  | .applied => .applied
  | .unused | .gone => .gone

def Phase.abort : Phase → Phase
  | .begun | .active _ => .gone
  | phase => phase

/-- Other documents are committed while a transaction is open. -/
def Phase.overtake (written : Key → Prop) : Phase → Phase
  | .active t => .active { t with overtaken := fun key => t.overtaken key ∨ written key }
  | phase => phase

structure Shared where
  /-- What is committed. -/
  records : Records
  phase : Session → Phase
  /-- How many commits were answered in doubt. -/
  doubts : Nat

/-- Records after a commit: the documents that the transaction wrote are as it sees them, the others
as they were. -/
structure Open.Merged (t : Open) (before after : Records) : Prop where
  ids : Identified after
  written : ∀ key, t.written key → document after key = document t.view key
  others : ∀ key, ¬t.written key → document after key = document before key

namespace Shared

variable (s : Shared) (session : Session)

/-- A server on which nothing was sent yet. -/
def init (records : Records) : Shared := ⟨records, fun _ => .unused, 0⟩

def set (phase : Phase) : Shared := { s with phase := Function.update s.phase session phase }

/-- The transaction in which a command is carried out; the first one opens it. -/
def transaction? : Option Open :=
  match s.phase session with
  | .begun => some ⟨s.records, s.records, fun _ => False, fun _ => False⟩
  | .active t => some t
  | _ => none

/-- A document that a transaction may not write. -/
def Taken (t : Open) (key : Key) : Prop :=
  t.overtaken key ∨
    ∃ other t', other ≠ session ∧ s.phase other = .active t' ∧ t'.written key

/-- A transaction is committed; of the others, each now finds its documents overtaken. -/
def publish (t : Open) (records : Records) : Shared :=
  { s with
    records
    phase := Function.update (fun other => (s.phase other).overtake t.written) session .applied }

/-- Counts the answers in doubt. -/
def noted (answer : Except Failure Unit) : Shared :=
  match answer with
  | .ok () => s
  | .error f => if f.commitUnknown then { s with doubts := s.doubts + 1 } else s

end Shared

section Rule

variable (unique : Keyed String (List (List String))) (s : Shared) (session : Session)

/-- What a command does to the view of a transaction, which is what it does to a server on which
only this transaction runs. -/
def Executes (t : Open) {α : Type} (command : Command α) (view : Records)
    (answer : Except Failure α) : Prop :=
  execute (begun ⟨t.snapshot, unique, none⟩ session t.view) command =
    (begun ⟨t.snapshot, unique, none⟩ session view, answer)

/-- The command would write a document that it may not write. -/
def Conflicts {α : Type} (command : Command α) : Prop :=
  ∃ t view answer, s.transaction? session = some t ∧
    Executes unique session t command view answer ∧
    ∃ key, Changed t.view view key ∧ s.Taken session t key

/-- How a command within a transaction is answered. -/
inductive Carries {α : Type} (command : Command α) : Except Failure α → Shared → Prop where
  | done {t : Open} {view : Records} {answer : Except Failure α}
      (ht : s.transaction? session = some t)
      (hexecutes : Executes unique session t command view answer)
      (hfree : ∀ key, Changed t.view view key → ¬s.Taken session t key) :
      Carries command answer
        (s.set session (.active { t with
          view, written := fun key => t.written key ∨ Changed t.view view key }))
  | conflict {f : Failure} (hconflict : Conflicts unique s session command)
      (htransient : f.transient = true) : Carries command (.error f) (s.set session .gone)
  /-- Anything else that may go wrong, with the transaction or without it. -/
  | refused {f : Failure} {phase : Phase} (hfree : ¬Conflicts unique s session command)
      (hphase : phase = s.phase session ∨ phase = (s.phase session).abort) :
      Carries command (.error f) (s.set session phase)

/-- How a commit is answered. -/
inductive Settles (answer : Except Failure Unit) : Shared → Prop where
  /-- The transaction is applied now, whether or not the client gets to know. -/
  | applied {t : Open} {records : Records} (ht : s.transaction? session = some t)
      (hcommits : Commits .opened answer .applied) (hmerged : t.Merged s.records records) :
      Settles answer ((s.publish session t records).noted answer)
  | unchanged {phase : Phase} (hcommits : Commits (s.phase session).status answer phase.status)
      (hphase : phase = s.phase session ∨ phase = .gone) :
      Settles answer ((s.set session phase).noted answer)

/-- The answers that the server may give.  Outside of transactions, clients only look, and see what
is committed. -/
def Serves : Rule Shared := fun s exchange s' =>
  match exchange with
  | ⟨.begin, .error _⟩ => s' = s
  | ⟨.begin, .ok session⟩ => s.phase session = .unused ∧ s' = s.set session .begun
  | ⟨.send (some session) .commit, answer⟩ => Settles s session answer s'
  | ⟨.send (some session) .abort, _⟩ => s' = s.set session (s.phase session).abort
  | ⟨.send (some session) command, answer⟩ => Carries unique s session command answer s'
  | ⟨.send none command, answer⟩ =>
    (Ask.send none command).Looks _ ∧ s' = s ∧
      (answer = (execute ⟨s.records, unique, none⟩ command).2 ∨ ∃ f, answer = .error f)
  | _ => s' = s

end Rule

/-! ## calls at the same time -/

/-- A call with what is left of its program. -/
structure Running : Type 1 where
  {α : Type}
  operation : Operation α
  rest : Program (Answer α)

namespace Running

/-- A call that has not asked for anything. -/
def start (policy : RetryPolicy) {α : Type} (operation : Operation α) : Running :=
  ⟨operation, program policy operation⟩

/-- What a call has answered. -/
def answer? (call : Running) : Option (Answer call.α) :=
  match call.rest with
  | .done answer => some answer
  | .ask _ _ => none

end Running

/-- The numbers that calls have answered within a parent. -/
def numberAnswered (scope : Scope) (call : Running) : Option Int :=
  match call.answer? with
  | some (.ok value) => Effect.numberWithin scope ⟨call.operation, value⟩
  | _ => none

def numbersAnswered (scope : Scope) (calls : List Running) : List Int :=
  calls.filterMap (numberAnswered scope)

structure System : Type 1 where
  server : Shared
  calls : List Running

/-- What calls at the same time can lead to: in each step one of them asks and is answered. -/
inductive Interleaved (unique : Keyed String (List (List String))) (start : System) :
    System → Prop where
  | start : Interleaved unique start start
  | step {server server' : Shared} {before after : List Running} {α β : Type}
      {operation : Operation α} {request : Ask β} {next : β → Program (Answer α)} (answer : β)
      (h : Interleaved unique start
        ⟨server, before ++ ⟨operation, .ask request next⟩ :: after⟩)
      (hserves : Serves unique server ⟨request, answer⟩ server') :
      Interleaved unique start ⟨server', before ++ ⟨operation, next answer⟩ :: after⟩

end ChatService.Database.Concurrent
