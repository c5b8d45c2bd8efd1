import ChatService.Text.Hex

/-!
# Object ids

The ids that the database addresses records by: numbers of 96 bits, written as 24 hexadecimal
digits. Ids made later are larger.
-/

namespace ChatService.Database

structure ObjectId where
  number : Nat
  isLt : number < Nat.pow 16 24
deriving DecidableEq, Repr

namespace ObjectId

/-- The id with a number; numbers of more than 96 bits lose their upper bits. -/
def ofNat (n : Nat) : ObjectId := ⟨n % Nat.pow 16 24, Nat.mod_lt _ (by decide)⟩

/-- The 24 digits in lower case. -/
def hex (id : ObjectId) : String := String.ofList (Text.hexDigits 24 id.number)

/-- Reads 24 digits in either case. -/
def ofHex? (s : String) : Option ObjectId :=
  if s.toList.length = 24 then (Text.hexNumber? s.toList).map ofNat else none

/-- Smaller or equal, which is earlier for ids made by one client. -/
def le (a b : ObjectId) : Bool := decide (a.number ≤ b.number)

end ObjectId

end ChatService.Database
