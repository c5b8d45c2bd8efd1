import ChatService.Store.Error

/-!
# Why the database fails

A failed command comes with its cause and with two marks: the transaction that it belongs to may
be run again from its beginning, or a commit may or may not have been carried out.
-/

namespace ChatService.Database

inductive Cause where
  /-- The server refused a command with a code. -/
  | command (code : Int)
  /-- The server refused to write a record with a code. -/
  | write (code : Int)
  /-- Anything else: no connection, an unreadable record, an unsupported feature. -/
  | other
deriving DecidableEq, Repr

structure Failure where
  cause : Cause
  /-- The transaction lost against another one and can be run again. -/
  transient : Bool := false
  /-- It is not known whether the commit was carried out. -/
  commitUnknown : Bool := false
  detail : String := ""
deriving DecidableEq, Repr

/-- The code for a value that a unique index already has. -/
def duplicateKey : Int := 11000

/-- A unique index already has the value. -/
def Failure.isDuplicateKey (f : Failure) : Bool :=
  match f.cause with
  | .command code | .write code => decide (code = duplicateKey)
  | .other => false

/-- Lost transactions and taken keys are conflicts, after which the work can be run again. -/
def Failure.toStoreError (f : Failure) : StoreError :=
  if f.transient || f.isDuplicateKey then .writeConflict f.detail else .database f.detail

end ChatService.Database
