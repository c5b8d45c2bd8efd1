import ChatService.Store.Model

/-!
# Search documents

A message as the search index holds it, addressed by the token of its application, the number of its
chat and its own number. The id is made of these three, so a message that is indexed again replaces
its document.
-/

namespace ChatService.Search

structure Document where
  applicationToken : String
  chatNumber : Int
  messageNumber : Int
  body : String
  createdAt : Timestamp
deriving DecidableEq, Repr

namespace Document

/-- The document of a message. -/
def ofMessage (token : String) (chatNumber : Int) (m : Store.Message) : Document :=
  { applicationToken := token, chatNumber, messageNumber := m.number, body := m.body
    createdAt := m.createdAt }

/-- The three parts of the address, with colons between them. -/
def id (d : Document) : String :=
  d.applicationToken ++ ":" ++ toString d.chatNumber ++ ":" ++ toString d.messageNumber

def toJson (d : Document) : Json :=
  .object
    [("application_token", .text d.applicationToken), ("chat_number", .int d.chatNumber),
      ("message_number", .int d.messageNumber), ("body", .text d.body),
      ("created_at", Store.timeJson d.createdAt)]

def fieldNames : List String :=
  ["application_token", "chat_number", "message_number", "body", "created_at"]

def ofReading? (r : Json.Reading) : Option Document :=
  match r.record? fieldNames with
  | some [token, chatNumber, messageNumber, body, createdAt] => do
    pure
      { applicationToken := ← token.string.toOption
        chatNumber := ← chatNumber.int64.toOption
        messageNumber := ← messageNumber.int64.toOption
        body := ← body.string.toOption
        createdAt := ← Store.timeOf? createdAt }
  | _ => none

end Document

end ChatService.Search
