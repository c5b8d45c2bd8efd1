import ChatService.Database.Value
import ChatService.Store.Model

/-!
# Rows

Applications, chats and messages as the database stores them: parents by object id, times in
milliseconds. A row is read from any record that has its fields, whatever their order and whatever
other fields there are.
-/

namespace ChatService.Database

structure ApplicationRow where
  id : ObjectId
  token : String
  name : String
  chatsCount : Int
  lastChatNumber : Int
  /-- Milliseconds since 1970. -/
  createdAt : Int
  updatedAt : Int
deriving DecidableEq, Repr

structure ChatRow where
  id : ObjectId
  applicationId : ObjectId
  number : Int
  messagesCount : Int
  lastMessageNumber : Int
  createdAt : Int
  updatedAt : Int
deriving DecidableEq, Repr

structure MessageRow where
  id : ObjectId
  chatId : ObjectId
  number : Int
  body : String
  createdAt : Int
  updatedAt : Int
deriving DecidableEq, Repr

namespace ApplicationRow

def toRecord (row : ApplicationRow) : Record :=
  [("_id", .objectId row.id), ("token", .text row.token), ("name", .text row.name),
    ("chats_count", .long row.chatsCount), ("last_chat_number", .long row.lastChatNumber),
    ("created_at", .time row.createdAt), ("updated_at", .time row.updatedAt)]

def ofRecord? (record : Record) : Option ApplicationRow := do
  pure
    { id := ← field? record "_id" Value.id?
      token := ← field? record "token" Value.text?
      name := ← field? record "name" Value.text?
      chatsCount := ← field? record "chats_count" Value.integer?
      lastChatNumber := ← field? record "last_chat_number" Value.integer?
      createdAt := ← field? record "created_at" Value.time?
      updatedAt := ← field? record "updated_at" Value.time? }

def toModel (row : ApplicationRow) : Store.Application :=
  { id := row.id.hex, token := row.token, name := row.name, chatsCount := row.chatsCount
    lastChatNumber := row.lastChatNumber, createdAt := timeOfMillis row.createdAt
    updatedAt := timeOfMillis row.updatedAt }

end ApplicationRow

namespace ChatRow

def toRecord (row : ChatRow) : Record :=
  [("_id", .objectId row.id), ("application_id", .objectId row.applicationId),
    ("number", .long row.number), ("messages_count", .long row.messagesCount),
    ("last_message_number", .long row.lastMessageNumber), ("created_at", .time row.createdAt),
    ("updated_at", .time row.updatedAt)]

def ofRecord? (record : Record) : Option ChatRow := do
  pure
    { id := ← field? record "_id" Value.id?
      applicationId := ← field? record "application_id" Value.id?
      number := ← field? record "number" Value.integer?
      messagesCount := ← field? record "messages_count" Value.integer?
      lastMessageNumber := ← field? record "last_message_number" Value.integer?
      createdAt := ← field? record "created_at" Value.time?
      updatedAt := ← field? record "updated_at" Value.time? }

def toModel (row : ChatRow) : Store.Chat :=
  { id := row.id.hex, applicationId := row.applicationId.hex, number := row.number
    messagesCount := row.messagesCount, lastMessageNumber := row.lastMessageNumber
    createdAt := timeOfMillis row.createdAt, updatedAt := timeOfMillis row.updatedAt }

end ChatRow

namespace MessageRow

def toRecord (row : MessageRow) : Record :=
  [("_id", .objectId row.id), ("chat_id", .objectId row.chatId), ("number", .long row.number),
    ("body", .text row.body), ("created_at", .time row.createdAt),
    ("updated_at", .time row.updatedAt)]

def ofRecord? (record : Record) : Option MessageRow := do
  pure
    { id := ← field? record "_id" Value.id?
      chatId := ← field? record "chat_id" Value.id?
      number := ← field? record "number" Value.integer?
      body := ← field? record "body" Value.text?
      createdAt := ← field? record "created_at" Value.time?
      updatedAt := ← field? record "updated_at" Value.time? }

def toModel (row : MessageRow) : Store.Message :=
  { id := row.id.hex, chatId := row.chatId.hex, number := row.number, body := row.body
    createdAt := timeOfMillis row.createdAt, updatedAt := timeOfMillis row.updatedAt }

end MessageRow

end ChatService.Database
