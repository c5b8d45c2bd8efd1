import ChatService.Store.Error
import ChatService.Word

/-!
# Child counts and numbers

A parent's count of its children changes together with the children, and never below zero. Numbers
are handed out one after the other, and none is ever handed out twice.
-/

namespace ChatService.Store

/-- Which count of which parent. -/
inductive CounterField where
  | chats
  | messages
deriving DecidableEq, Repr

/-- The name under which a count is stored. -/
def CounterField.name : CounterField → String
  | chats => "chats_count"
  | messages => "messages_count"

/-- A change of a count. -/
structure CounterUpdate where
  field : CounterField
  delta : Int
deriving DecidableEq, Repr

namespace CounterUpdate

def increment (field : CounterField) : CounterUpdate := ⟨field, 1⟩

def decrement (field : CounterField) : CounterUpdate := ⟨field, -1⟩

/-- What is added to which stored field. -/
def increments (u : CounterUpdate) : List (String × Int) := [(u.field.name, u.delta)]

/-- The changed count, which must be a signed 64-bit number and not negative. -/
def apply (u : CounterUpdate) (current : Int) : Except StoreError Int :=
  match Word.addInt64? current u.delta with
  | none => .error (.internal (u.field.name ++ " overflowed"))
  | some next =>
    if next < 0 then .error (.internal (u.field.name ++ " would drop below zero")) else .ok next

end CounterUpdate

/-- The number after the highest one handed out so far. -/
def nextAfter (last : Int) : Except StoreError Int :=
  if last < 0 then .error (.internal s!"sequence counter is negative: {last}")
  else
    match Word.addInt64? last 1 with
    | some next => .ok next
    | none => .error (.constraintViolation "sequence exhausted")

/-- The parent within which a number is handed out. -/
inductive Scope where
  /-- Chat numbers of an application. -/
  | application (token : String)
  /-- Message numbers of a chat. -/
  | chat (token : String) (number : Int)
deriving DecidableEq, Repr

def Scope.name : Scope → String
  | application token => "application:" ++ token
  | chat token number => "application:" ++ token ++ s!":chat:{number}"

end ChatService.Store
