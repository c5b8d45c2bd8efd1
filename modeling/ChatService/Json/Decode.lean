import ChatService.Json.Reading
import ChatService.Text.Quoted
import ChatService.Word

/-!
# Decoding JSON

How values of the domain are found in a tree that was read: numbers of 64 bits, texts, and records,
which are objects with certain fields or lists of the same values in order. A record may be written
with further fields, in any order; none of its own fields may come twice.

A value of the wrong shape is described by what was found and what was expected.
-/

namespace ChatService.Json

/-- Where a value stands in a tree. -/
inductive Place where
  | field (name : String)
  | item (index : Nat)
deriving DecidableEq, Repr

/-- Why a value does not have the wanted shape. -/
inductive Mismatch where
  | wrongType (found : String) (expected : String)
  | wrongValue (found : String) (expected : String)
  | repeatedField (name : String)
  | wrongLength (count : Nat) (expected : String)
deriving DecidableEq, Repr

/-- The wording of a mismatch. -/
def Mismatch.message : Mismatch → String
  | .wrongType found expected => s!"invalid type: {found}, expected {expected}"
  | .wrongValue found expected => s!"invalid value: {found}, expected {expected}"
  | .repeatedField name => "duplicate field `" ++ name ++ "`"
  | .wrongLength count expected => s!"invalid length {count}, expected {expected}"

/-- Why a tree is not decoded: the text behind it is not JSON, or it has the wrong shape at some
    place. -/
inductive Fault where
  | malformed
  | shape (place : List Place) (mismatch : Mismatch)
deriving DecidableEq, Repr

/-- The fault seen from the value that a place leads to. -/
def Fault.within (place : Place) : Fault → Fault
  | .malformed => .malformed
  | .shape places mismatch => .shape (place :: places) mismatch

/-- How a number is named in a message. -/
def Number.found : Number → String
  | .integer n => "integer `" ++ toString n ++ "`"
  | .double x => "floating point `" ++ x.render ++ "`"

namespace Reading

/-- How a value is named in a message. -/
def found : Reading → String
  | .null => "null"
  | .bool b => "boolean `" ++ (if b then "true" else "false") ++ "`"
  | .number (some n) => n.found
  | .text s => "string " ++ Text.quoted (s.getD "")
  | .list _ => "sequence"
  | .object _ => "map"
  | .number none | .broken => ""

/-- The value must at least be readable; `expected` names what it is not. -/
def mismatch {α : Type} (expected : String) : Reading → Except Fault α
  | .broken => .error .malformed
  | .text none => .error .malformed
  | .number none => .error .malformed
  | r => .error (.shape [] (.wrongType r.found expected))

/-- A signed 64-bit number. -/
def int64 : Reading → Except Fault Int
  | .number (some (.integer n)) =>
    if Word.IsInt64 n then .ok n
    else .error (.shape [] (.wrongValue (Number.integer n).found "i64"))
  | r => r.mismatch "i64"

/-- An unsigned 64-bit number. -/
def uint64 : Reading → Except Fault Nat
  | .number (some (.integer n)) =>
    if 0 ≤ n then .ok n.toNat
    else .error (.shape [] (.wrongValue (Number.integer n).found "u64"))
  | r => r.mismatch "u64"

/-- A text. -/
def string : Reading → Except Fault String
  | .text (some s) => .ok s
  | r => r.mismatch "a string"

/-- A text, or none where it says `null`. -/
def string? : Reading → Except Fault (Option String)
  | .null => .ok none
  | r => (r.string).map some

/-- The first value of a field. -/
def lookup (name : String) : List (Option String × Reading) → Option Reading
  | [] => none
  | field :: fields => if field.1 = some name then some field.2 else lookup name fields

/-- Every key can be read and no key from `names` comes twice. -/
def keysFit (names : List String) (fields : List (Option String × Reading)) : Bool :=
  fields.all (·.1.isSome) &&
    names.all fun name => (fields.filter fun field => field.1 == some name).length ≤ 1

/-- The values of the fields of a record, those that are there: out of an object, or out of a list
    in the order of the names. -/
def fields? (names : List String) (r : Reading) : Option (List (Option Reading)) :=
  if r.isComplete then
    match r with
    | .object fields => if keysFit names fields then some (names.map (lookup · fields)) else none
    | .list items =>
      if items.length ≤ names.length then
        some (items.map some ++ List.replicate (names.length - items.length) none)
      else none
    | _ => none
  else none

/-- The values of the fields of a record, when all of them are there. -/
def record? (names : List String) (r : Reading) : Option (List Reading) :=
  (fields? names r).bind fun values => values.mapM id

end Reading

end ChatService.Json
