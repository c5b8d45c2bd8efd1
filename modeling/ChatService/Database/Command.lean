import ChatService.Database.Failure
import ChatService.Database.Value
import ChatService.Time.Duration

/-!
# Commands

What a database server can be asked, with the type of its answer. Records stand in named
collections; filters select the records whose fields have certain values.
-/

namespace ChatService.Database

inductive Condition where
  | equals (v : Value)
  /-- A time after this one. -/
  | after (ms : Int)
deriving DecidableEq, Repr

/-- Conditions on named fields, all of which must hold. -/
abbrev Filter : Type := List (String × Condition)

/-- What a record's fields are changed to. -/
structure Update where
  /-- What is added to numbers. -/
  increments : List (String × Int)
  /-- Values that take the place of others. -/
  values : List (String × Value)
deriving DecidableEq, Repr

/-- Fields to sort by, each ascending or descending; the first one decides. -/
structure SortKey where
  field : String
  ascending : Bool
deriving DecidableEq, Repr

inductive Command : Type → Type where
  | createIndex (collection : String) (key : List SortKey) (unique : Bool)
      (expiresAfter : Option Duration) : Command Unit
  | insert (collection : String) (record : Record) : Command Unit
  | findOne (collection : String) (filter : Filter) : Command (Option Record)
  /-- A limit of zero is none. -/
  | find (collection : String) (filter : Filter) (sort : List SortKey) (skip limit : Nat) :
      Command (List Record)
  | count (collection : String) (filter : Filter) : Command Nat
  /-- Changes one record and answers it as it was before. -/
  | updateAndReturn (collection : String) (filter : Filter) (update : Update) :
      Command (Option Record)
  /-- Changes one record, if there is one. -/
  | update (collection : String) (filter : Filter) (update : Update) : Command Unit
  /-- Puts a record in the place of another, or adds it if there is none. -/
  | replaceOrInsert (collection : String) (filter : Filter) (record : Record) : Command Unit
  /-- Removes one record and answers it. -/
  | removeAndReturn (collection : String) (filter : Filter) : Command (Option Record)
  /-- Removes records and answers how many. -/
  | removeAll (collection : String) (filter : Filter) : Command Nat
  | ping : Command Unit
  /-- Ends a transaction and keeps what it wrote. -/
  | commit : Command Unit
  /-- Ends a transaction and undoes what it wrote. -/
  | abort : Command Unit

end ChatService.Database
