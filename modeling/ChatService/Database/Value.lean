import ChatService.Database.ObjectId
import ChatService.Double
import ChatService.Keyed
import ChatService.Time.Timestamp

/-!
# Stored records

A record is a list of named values. Times are stored in milliseconds; reading a time that the
calendar does not reach gives the beginning of 1970.
-/

namespace ChatService.Database

inductive Value where
  | text (s : String)
  /-- A signed 32-bit number. -/
  | int (n : Int)
  /-- A signed 64-bit number. -/
  | long (n : Int)
  | double (x : Double)
  | bool (b : Bool)
  | null
  | objectId (id : ObjectId)
  /-- Milliseconds since 1970. -/
  | time (ms : Int)
deriving DecidableEq, Repr

/-- Values by name, in the order in which they are stored. -/
abbrev Record : Type := Keyed String Value

namespace Value

def text? : Value → Option String
  | .text s => some s
  | _ => none

/-- A whole number of either width. -/
def integer? : Value → Option Int
  | .int n | .long n => some n
  | _ => none

/-- An id, also one that is written as a text. -/
def id? : Value → Option ObjectId
  | .objectId i => some i
  | .text s => ObjectId.ofHex? s
  | _ => none

def time? : Value → Option Int
  | .time ms => some ms
  | _ => none

/-- Where values of a type stand when values of several types are sorted. -/
def rank : Value → Nat
  | .null => 0
  | .int _ | .long _ | .double _ => 1
  | .text _ => 2
  | .objectId _ => 3
  | .bool _ => 4
  | .time _ => 5

/-- The number that a value of any of the three types is. -/
def number? : Value → Option Rat
  | .int n | .long n => some n
  | .double x => some x.toRat
  | _ => none

/-- The order in which values are sorted: numbers by size, whatever their type, and values of
    different types by their types; a missing value comes first. -/
def le (a b : Value) : Bool :=
  match a, b with
  | .text s, .text t => decide (s ≤ t)
  | .objectId i, .objectId j => i.le j
  | .bool b, .bool c => decide (b ≤ c)
  | .time m, .time n => decide (m ≤ n)
  | a, b =>
    match a.number?, b.number? with
    | some x, some y => decide (x ≤ y)
    | _, _ => decide (a.rank ≤ b.rank)

end Value

/-- The value of a field of a record, read in a certain way. -/
def field? {α : Type} (record : Record) (name : String) (read? : Value → Option α) : Option α :=
  (Keyed.get? name record).bind read?

/-- The stored form of a time. -/
def timeValue (t : Timestamp) : Value := .time t.millis

/-- The time that a stored number of milliseconds stands for. -/
def timeOfMillis (ms : Int) : Timestamp := (Timestamp.ofMillis? ms).getD .epoch

end ChatService.Database
