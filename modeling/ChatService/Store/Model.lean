import ChatService.Json.Decode
import ChatService.Store.Error
import ChatService.Time.Rfc3339

/-!
# Applications, chats and messages

An application holds chats and a chat holds messages, each numbered from 1 within its parent. A
parent knows how many children it has and the highest number it ever gave to one. Applications are
known to clients by a token, chats and messages by their numbers; the internal ids belong to the
store.
-/

namespace ChatService.Store

structure Application where
  id : String
  token : String
  name : String
  chatsCount : Int
  /-- The highest chat number ever handed out under this application. -/
  lastChatNumber : Int
  createdAt : Timestamp
  updatedAt : Timestamp
deriving DecidableEq, Repr

structure Chat where
  id : String
  applicationId : String
  number : Int
  messagesCount : Int
  /-- The highest message number ever handed out under this chat. -/
  lastMessageNumber : Int
  createdAt : Timestamp
  updatedAt : Timestamp
deriving DecidableEq, Repr

structure Message where
  id : String
  chatId : String
  number : Int
  body : String
  createdAt : Timestamp
  updatedAt : Timestamp
deriving DecidableEq, Repr

/-! ## Validation -/

/-- A text that may not be missing or blank, under the name by which an error calls it. -/
def requireText (name : String) : Option String → Except StoreError String
  | some s => if Text.isBlank s then .error (blank name) else .ok s
  | none => .error (blank name)
where
  blank (name : String) : StoreError := .validation (name ++ " can't be blank")

def validateName (name : Option String) : Except StoreError String := requireText "name" name

def validateBody (body : Option String) : Except StoreError String := requireText "body" body

/-! ## JSON -/

/-- A timestamp as JSON. -/
def timeJson (t : Timestamp) : Json := .text t.render

/-- A timestamp out of its text. -/
def timeOf? (r : Json.Reading) : Option Timestamp :=
  r.string.toOption.bind Timestamp.parse?

namespace Application

def toJson (a : Application) : Json :=
  .object
    [("id", .text a.id), ("token", .text a.token), ("name", .text a.name),
      ("chats_count", .int a.chatsCount), ("last_chat_number", .int a.lastChatNumber),
      ("created_at", timeJson a.createdAt), ("updated_at", timeJson a.updatedAt)]

def fieldNames : List String :=
  ["id", "token", "name", "chats_count", "last_chat_number", "created_at", "updated_at"]

def ofReading? (r : Json.Reading) : Option Application :=
  match r.record? fieldNames with
  | some [id, token, name, chatsCount, lastChatNumber, createdAt, updatedAt] => do
    pure
      { id := ← id.string.toOption
        token := ← token.string.toOption
        name := ← name.string.toOption
        chatsCount := ← chatsCount.int64.toOption
        lastChatNumber := ← lastChatNumber.int64.toOption
        createdAt := ← timeOf? createdAt
        updatedAt := ← timeOf? updatedAt }
  | _ => none

end Application

namespace Chat

def toJson (c : Chat) : Json :=
  .object
    [("id", .text c.id), ("application_id", .text c.applicationId), ("number", .int c.number),
      ("messages_count", .int c.messagesCount), ("last_message_number", .int c.lastMessageNumber),
      ("created_at", timeJson c.createdAt), ("updated_at", timeJson c.updatedAt)]

end Chat

namespace Message

def toJson (m : Message) : Json :=
  .object
    [("id", .text m.id), ("chat_id", .text m.chatId), ("number", .int m.number),
      ("body", .text m.body), ("created_at", timeJson m.createdAt),
      ("updated_at", timeJson m.updatedAt)]

def fieldNames : List String := ["id", "chat_id", "number", "body", "created_at", "updated_at"]

def ofReading? (r : Json.Reading) : Option Message :=
  match r.record? fieldNames with
  | some [id, chatId, number, body, createdAt, updatedAt] => do
    pure
      { id := ← id.string.toOption
        chatId := ← chatId.string.toOption
        number := ← number.int64.toOption
        body := ← body.string.toOption
        createdAt := ← timeOf? createdAt
        updatedAt := ← timeOf? updatedAt }
  | _ => none

end Message

end ChatService.Store
