import ChatService.Double

/-!
# JSON values

Values as they are sent, stored and indexed. An object keeps its fields in the order in which they
are written. A number is an integer of 64 bits or a double.
-/

namespace ChatService

namespace Json

inductive Number where
  /-- A whole number written without fraction and exponent, from the smallest signed to the largest
      unsigned one of 64 bits. -/
  | integer (n : Int)
  /-- Any other number; also the zero with a minus sign. -/
  | double (x : Double)
deriving DecidableEq, Repr

end Json

inductive Json where
  | null
  | bool (b : Bool)
  | number (n : Json.Number)
  | text (s : String)
  | list (items : List Json)
  | object (fields : List (String × Json))
deriving Repr, Inhabited

namespace Json

/-- A whole number. -/
def int (n : Int) : Json := .number (.integer n)

/-- A count. -/
def nat (n : Nat) : Json := .int n

/-- A text, or `null` for none. -/
def textOrNull : Option String → Json
  | some s => .text s
  | none => .null

end Json

end ChatService
