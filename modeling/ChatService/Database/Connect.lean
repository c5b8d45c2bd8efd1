import ChatService.Database.ConnectionString
import ChatService.Database.Store

/-!
# Connecting the store

What a store in a database is opened with. Opening checks the settings in order and makes the
indexes on which the numbering relies.
-/

namespace ChatService.Database

open Store (RetryPolicy)

structure Settings where
  uri : Option String := none
  database : Option String := none
  maxAttempts : Nat := RetryPolicy.defaultMaxAttempts
  poolSize : Option Nat := none
  /-- Make the indexes when opening. -/
  makeIndexes : Bool := true
deriving Repr

/-- The indexes of the three collections: tokens and numbers are unique, listings are sorted. -/
def storeIndexes : List (Command Unit) :=
  [.createIndex applications [⟨"token", true⟩] true none,
    .createIndex applications newestFirst false none,
    .createIndex chats [⟨"application_id", true⟩, ⟨"number", true⟩] true none,
    .createIndex messages [⟨"chat_id", true⟩, ⟨"number", true⟩] true none]

/-- Sends commands one after the other until one fails. -/
def sendAll : List (Command Unit) → Script Unit
  | [] => pure ()
  | command :: rest => do
    Script.send none command
    sendAll rest

/-- The settings that must be there, in the order in which they are checked. -/
def Settings.check (s : Settings) : Except StoreError Unit := do
  let uri ← required "mongodb_uri" s.uri
  let _ ← required "database" s.database
  match ConnectionString.parse? uri with
  | none => throw (.connection "malformed address")
  | some connection =>
    if s.poolSize = some 0 || !connection.options.poolFits s.poolSize then
      throw (.connection "a pool needs room for its connections")
where
  required (name : String) : Option String → Except StoreError String
    | some value => .ok value
    | none => .error (.internal (name ++ " is required"))

/-- Opens the store; the answer says how often its units of work are run. -/
def open? (s : Settings) : Script RetryPolicy := do
  Script.ofExcept s.check
  if s.makeIndexes then sendAll storeIndexes
  return RetryPolicy.ofAttempts s.maxAttempts

end ChatService.Database
