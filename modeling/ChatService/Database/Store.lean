import ChatService.Database.Row
import ChatService.Database.Transaction
import ChatService.Store.Counter
import ChatService.Store.Operation

/-!
# The store in a database

Applications, chats and messages in three collections. A number is handed out by raising the
counters of the parent, in the transaction that inserts the child, so that writers on one parent
take turns or conflict. Unique indexes keep a number from being used twice.
-/

namespace ChatService.Database

open Store (Application Message Operation Answer CounterUpdate CounterField RetryPolicy)

def applications : String := "applications"

def chats : String := "chats"

def messages : String := "messages"

/-! ## Filters and changes -/

def tokenIs (token : String) : Filter := [("token", .equals (.text token))]

def idIs (id : ObjectId) : Filter := [("_id", .equals (.objectId id))]

def inApplication (id : ObjectId) : Filter := [("application_id", .equals (.objectId id))]

/-- The chat with a number in an application. -/
def chatIs (applicationId : ObjectId) (number : Int) : Filter :=
  [("application_id", .equals (.objectId applicationId)), ("number", .equals (.long number))]

def inChat (id : ObjectId) : Filter := [("chat_id", .equals (.objectId id))]

/-- A change of counters at some time. -/
def countersChange (increments : List (String × Int)) (now : Int) : Update :=
  ⟨increments, [("updated_at", .time now)]⟩

/-- One more child, whose number is the next one. -/
def childAdded (count : CounterField) (lastNumber : String) (now : Int) : Update :=
  countersChange ((CounterUpdate.increment count).increments ++ [(lastNumber, 1)]) now

/-! ## Reading records -/

/-- The failure to read a record that the database has. -/
def unreadable : StoreError := .database "unreadable record"

/-- Reads a record as a row. -/
def rowOf {ρ : Type} (ofRecord? : Record → Option ρ) (record : Record) : Except StoreError ρ :=
  match ofRecord? record with
  | some row => .ok row
  | none => .error unreadable

/-- The row of a record, or an error if there is no record. -/
def rowOrError {ρ : Type} (ofRecord? : Record → Option ρ) (missing : StoreError) :
    Option Record → Except StoreError ρ
  | some record => rowOf ofRecord? record
  | none => .error missing

/-- The largest skip and limit that the server takes. -/
def cursorBound (n : Nat) : Nat := min n Word.maxInt64.toNat

/-! ## Applications -/

def newApplicationRow (id : ObjectId) (token name : String) (now : Int) : ApplicationRow :=
  { id, token, name, chatsCount := 0, lastChatNumber := 0, createdAt := now, updatedAt := now }

/-- One attempt to insert an application, under a token of its own. -/
def insertApplication (name : String) : Script Application := do
  let now ← Script.asking .clock
  let id ← Script.asking .freshId
  let token ← Script.asking .freshToken
  let row := newApplicationRow id token name now
  Script.send none (.insert applications row.toRecord)
  return row.toModel

/-- A token that is taken already counts as a conflict, after which another one is tried. -/
def createApplication (policy : RetryPolicy) (name : Option String) : Script Application := do
  let name ← Script.ofExcept (Store.validateName name)
  .mk (policy.retry pause "application token" (insertApplication name).run)

def countApplications : Script Nat := Script.send none (.count applications [])

/-- Newest first; of two applications made at the same moment, the later id. -/
def newestFirst : List SortKey := [⟨"created_at", false⟩, ⟨"_id", false⟩]

def listApplications (offset limit : Nat) : Script (List Application) := do
  let records ← Script.send none
    (.find applications [] newestFirst (cursorBound offset) (cursorBound limit))
  let rows ← Script.ofExcept (records.mapM (rowOf ApplicationRow.ofRecord?))
  return rows.map ApplicationRow.toModel

/-- The row of an application. -/
def applicationRow (token : String) : Script ApplicationRow := do
  let record ← Script.send none (.findOne applications (tokenIs token))
  Script.ofExcept (rowOrError ApplicationRow.ofRecord? (.applicationNotFound token) record)

def findApplication (token : String) : Script Application := do
  return (← applicationRow token).toModel

/-! ## Chats -/

def newChatRow (id applicationId : ObjectId) (number now : Int) : ChatRow :=
  { id, applicationId, number, messagesCount := 0, lastMessageNumber := 0, createdAt := now
    updatedAt := now }

/-- Takes the next chat number of an application and inserts the chat. -/
def insertChat (token : String) (session : Session) : Script Store.Chat := do
  let raised ← Script.asking .clock
  let record ← Script.send (some session) <|
    .updateAndReturn applications (tokenIs token) (childAdded .chats "last_chat_number" raised)
  let before ← Script.ofExcept <|
    rowOrError ApplicationRow.ofRecord? (.applicationNotFound token) record
  let number ← Script.ofExcept (Store.nextAfter before.lastChatNumber)
  let now ← Script.asking .clock
  let id ← Script.asking .freshId
  let row := newChatRow id before.id number now
  Script.send (some session) (.insert chats row.toRecord)
  return row.toModel

def createChat (policy : RetryPolicy) (token : String) : Script Store.Chat :=
  inTransaction policy (.application token) (insertChat token)

/-- The row of a chat. -/
def chatRow (token : String) (number : Int) : Script ChatRow := do
  let application ← applicationRow token
  let record ← Script.send none (.findOne chats (chatIs application.id number))
  Script.ofExcept (rowOrError ChatRow.ofRecord? (.chatNotFound token number) record)

def findChat (token : String) (number : Int) : Script Store.Chat := do
  return (← chatRow token number).toModel

def countChats (token : String) : Script Nat := do
  let application ← applicationRow token
  Script.send none (.count chats (inApplication application.id))

/-- By ascending number. -/
def byNumber : List SortKey := [⟨"number", true⟩]

def listChats (token : String) (offset limit : Nat) : Script (List Store.Chat) := do
  let application ← applicationRow token
  let records ← Script.send none <|
    .find chats (inApplication application.id) byNumber (cursorBound offset) (cursorBound limit)
  let rows ← Script.ofExcept (records.mapM (rowOf ChatRow.ofRecord?))
  return rows.map ChatRow.toModel

/-- Removes a chat and its messages, and counts it out of its application. -/
def removeChat (applicationId : ObjectId) (token : String) (number : Int) (session : Session) :
    Script Unit := do
  let record ← Script.send (some session) (.removeAndReturn chats (chatIs applicationId number))
  let chat ← Script.ofExcept (rowOrError ChatRow.ofRecord? (.chatNotFound token number) record)
  let _ ← Script.send (some session) (.removeAll messages (inChat chat.id))
  let now ← Script.asking .clock
  Script.send (some session) <|
    .update applications (idIs applicationId) <|
      countersChange (CounterUpdate.decrement .chats).increments now

def deleteChat (policy : RetryPolicy) (token : String) (number : Int) : Script Unit := do
  let application ← applicationRow token
  inTransaction policy (.application token) (removeChat application.id token number)

/-! ## Messages -/

def newMessageRow (id chatId : ObjectId) (number : Int) (body : String) (now : Int) : MessageRow :=
  { id, chatId, number, body, createdAt := now, updatedAt := now }

/-- Takes the next message number of a chat and inserts the message. -/
def insertMessage (applicationId : ObjectId) (token : String) (number : Int) (body : String)
    (session : Session) : Script Message := do
  let raised ← Script.asking .clock
  let record ← Script.send (some session) <|
    .updateAndReturn chats (chatIs applicationId number)
      (childAdded .messages "last_message_number" raised)
  let before ← Script.ofExcept (rowOrError ChatRow.ofRecord? (.chatNotFound token number) record)
  let next ← Script.ofExcept (Store.nextAfter before.lastMessageNumber)
  let now ← Script.asking .clock
  let id ← Script.asking .freshId
  let row := newMessageRow id before.id next body now
  Script.send (some session) (.insert messages row.toRecord)
  return row.toModel

def createMessage (policy : RetryPolicy) (token : String) (number : Int) (body : Option String) :
    Script Message := do
  let body ← Script.ofExcept (Store.validateBody body)
  let application ← applicationRow token
  inTransaction policy (.chat token number) (insertMessage application.id token number body)

def countMessages (token : String) (number : Int) : Script Nat := do
  let chat ← chatRow token number
  Script.send none (.count messages (inChat chat.id))

def listMessages (token : String) (number : Int) (offset limit : Nat) : Script (List Message) := do
  let chat ← chatRow token number
  let records ← Script.send none <|
    .find messages (inChat chat.id) byNumber (cursorBound offset) (cursorBound limit)
  let rows ← Script.ofExcept (records.mapM (rowOf MessageRow.ofRecord?))
  return rows.map MessageRow.toModel

/-! ## Every operation -/

/-- The script for an operation. -/
def script (policy : RetryPolicy) : {α : Type} → Operation α → Script α
  | _, .createApplication name => createApplication policy name
  | _, .countApplications => countApplications
  | _, .listApplications offset limit => listApplications offset limit
  | _, .findApplication token => findApplication token
  | _, .createChat token => createChat policy token
  | _, .findChat token number => findChat token number
  | _, .countChats token => countChats token
  | _, .listChats token offset limit => listChats token offset limit
  | _, .deleteChat token number => deleteChat policy token number
  | _, .createMessage token number body => createMessage policy token number body
  | _, .countMessages token number => countMessages token number
  | _, .listMessages token number offset limit => listMessages token number offset limit
  | _, .ping => Script.send none .ping

/-- The program for an operation. -/
def program (policy : RetryPolicy) {α : Type} (operation : Operation α) : Program (Answer α) :=
  (script policy operation).run

end ChatService.Database
