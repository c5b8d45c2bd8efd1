import ChatService.Call
import ChatService.Keyed
import ChatService.Page.Window
import ChatService.Store.Counter
import ChatService.Store.Operation
import ChatService.Text.Hex

/-!
# The in-memory store

Applications are found by token; an application holds the links to its chats, and a chat holds its
messages. Applications and chats are locked one by one, so that numbers are handed out one at a time
per parent, and no section holds two locks.

A chat record outlives its link: a deleted chat is first unlinked from its application and then, in
a section of its own, marked as deleted and emptied. Whoever found the link before still reaches the
record and sees the mark.
-/

namespace ChatService.Memory

open Store (Application Message Operation Answer CounterUpdate)

/-- A chat with its messages by number. -/
structure ChatRecord where
  chat : Store.Chat
  messages : Keyed Int Message
  deleted : Bool
deriving Repr

/-- An application with the links to its chats by number. A link names a chat record. -/
structure ApplicationRecord where
  application : Application
  chats : Keyed Int Nat
deriving Repr

structure State where
  applications : Keyed String ApplicationRecord
  /-- All chat records ever made, linked or not. -/
  chats : Keyed Nat ChatRecord
  /-- How many internal ids were given out. -/
  ids : Nat
deriving Repr

def State.empty : State := ⟨[], [], 0⟩

/-- What a section reads from outside: the clock and a fresh token. -/
structure Moment where
  now : Timestamp
  token : String
deriving Repr

inductive Lock where
  | application (token : String)
  | chat (record : Nat)
deriving DecidableEq, Repr

/-- A call on the store. -/
abbrev StoreCall (α : Type) : Type := Call State Moment Lock (Answer α)

/-- An internal id: 24 hexadecimal digits, so that ids compare as texts like their numbers. -/
def idText (n : Nat) : String := String.ofList (Text.hexDigits 24 n)

/-- Ends a call. -/
def reply {α : Type} (answer : α) : StoreCall α := .done (.ok answer)

/-- Ends a call with an error. -/
def refuse {α : Type} (e : StoreError) : StoreCall α := .done (.error e)

/-- Ends a call with an error, or goes on. -/
def orRefuse {α β : Type} (answer : Answer α) (next : α → StoreCall β) : StoreCall β :=
  match answer with
  | .ok a => next a
  | .error e => refuse e

namespace State

/-- Changes the record of an application. -/
def updateApplication (s : State) (token : String) (f : ApplicationRecord → ApplicationRecord) :
    State :=
  { s with applications := Keyed.update token f s.applications }

/-- Changes a chat record. -/
def updateChat (s : State) (record : Nat) (f : ChatRecord → ChatRecord) : State :=
  { s with chats := Keyed.update record f s.chats }

end State

/-! ## Applications -/

/-- Finds an application, then runs a section under its lock. -/
def withApplication {α : Type} (token : String)
    (body : Moment → State → ApplicationRecord → State × StoreCall α) : StoreCall α :=
  .look fun s =>
    match Keyed.get? token s.applications with
    | none => refuse (.applicationNotFound token)
    | some _ =>
      .locked (.application token) fun m s =>
        match Keyed.get? token s.applications with
        | none => (s, refuse (.applicationNotFound token))
        | some record => body m s record

/-- The application that a creation stores. -/
def newApplication (m : Moment) (number : Nat) (name : String) : Application :=
  { id := idText number, token := m.token, name, chatsCount := 0, lastChatNumber := 0
    createdAt := m.now, updatedAt := m.now }

def createApplication (name : Option String) : StoreCall Application :=
  orRefuse (Store.validateName name) fun name =>
    .atomic fun m s =>
      let application := newApplication m (s.ids + 1) name
      ({ s with ids := s.ids + 1 },
        .atomic fun _ s =>
          match Keyed.get? application.token s.applications with
          | some _ => (s, refuse (.constraintViolation "token already taken"))
          | none =>
            let applications := Keyed.put application.token ⟨application, []⟩ s.applications
            ({ s with applications }, reply application))

def countApplications : StoreCall Nat := .look fun s => reply s.applications.length

/-- Newest first; of two applications made at the same moment, the later id. -/
def newestFirst (a b : Application) : Bool :=
  if a.createdAt = b.createdAt then decide (b.id ≤ a.id) else b.createdAt.le a.createdAt

/-- Reads applications one after the other, each under its lock, and then answers. -/
def readApplications (finish : List Application → StoreCall (List Application)) :
    List String → List Application → StoreCall (List Application)
  | [], read => finish read.reverse
  | token :: tokens, read =>
    .lookLocked (.application token) fun s =>
      match Keyed.get? token s.applications with
      | some record => readApplications finish tokens (record.application :: read)
      | none => readApplications finish tokens read

def listApplications (offset limit : Nat) : StoreCall (List Application) :=
  .look fun s =>
    readApplications
      (fun applications => reply (Page.slice offset limit (applications.mergeSort newestFirst)))
      (s.applications.map (·.1)) []

def findApplication (token : String) : StoreCall Application :=
  withApplication token fun _ s record => (s, reply record.application)

/-! ## Chats -/

/-- The chat that a creation stores. -/
def newChat (m : Moment) (record : Nat) (application : Application) (number : Int) : Store.Chat :=
  { id := idText record, applicationId := application.id, number, messagesCount := 0
    lastMessageNumber := 0, createdAt := m.now, updatedAt := m.now }

def createChat (token : String) : StoreCall Store.Chat :=
  withApplication token fun m s record =>
    let application := record.application
    let allocated : Answer (Int × Int) := do
      let number ← Store.nextAfter application.lastChatNumber
      let count ← (CounterUpdate.increment .chats).apply application.chatsCount
      pure (number, count)
    match allocated with
    | .error e => (s, refuse e)
    | .ok (number, count) =>
      let id := s.ids + 1
      let chat := newChat m id application number
      let s := s.updateApplication token fun record =>
        { application :=
            { record.application with
              lastChatNumber := number, chatsCount := count, updatedAt := m.now }
          chats := Keyed.putAscending number id record.chats }
      ({ s with chats := Keyed.put id ⟨chat, [], false⟩ s.chats, ids := id }, reply chat)

/-- Finds the record of a chat under the lock of its application, then runs a section under the lock
    of the chat. A record that was deleted meanwhile is not found. -/
def withChat {α : Type} (token : String) (number : Int)
    (body : Moment → State → Nat → ChatRecord → State × StoreCall α) : StoreCall α :=
  withApplication token fun _ s record =>
    match Keyed.get? number record.chats with
    | none => (s, refuse (.chatNotFound token number))
    | some id =>
      (s, .locked (.chat id) fun m s =>
        match Keyed.get? id s.chats with
        | none => (s, refuse (.chatNotFound token number))
        | some record =>
          if record.deleted then (s, refuse (.chatNotFound token number)) else body m s id record)

def findChat (token : String) (number : Int) : StoreCall Store.Chat :=
  withChat token number fun _ s _ record => (s, reply record.chat)

def countChats (token : String) : StoreCall Nat :=
  withApplication token fun _ s record => (s, reply record.chats.length)

/-- Reads chats one after the other, each under its lock, and leaves out those deleted meanwhile. -/
def readChats : List Nat → List Store.Chat → StoreCall (List Store.Chat)
  | [], read => reply read.reverse
  | id :: ids, read =>
    .lookLocked (.chat id) fun s =>
      match Keyed.get? id s.chats with
      | some record => readChats ids (if record.deleted then read else record.chat :: read)
      | none => readChats ids read

def listChats (token : String) (offset limit : Nat) : StoreCall (List Store.Chat) :=
  withApplication token fun _ s record =>
    (s, readChats ((Page.slice offset limit record.chats).map (·.2)) [])

/-- Marks a chat record as deleted and empties it. -/
def markDeleted (id : Nat) : StoreCall Unit :=
  .locked (.chat id) fun _ s =>
    (s.updateChat id fun record => { record with messages := [], deleted := true }, reply ())

def deleteChat (token : String) (number : Int) : StoreCall Unit :=
  withApplication token fun m s record =>
    match Keyed.get? number record.chats with
    | none => (s, refuse (.chatNotFound token number))
    | some id =>
      match (CounterUpdate.decrement .chats).apply record.application.chatsCount with
      | .error e => (s, refuse e)
      | .ok count =>
        (s.updateApplication token fun record =>
          { application := { record.application with chatsCount := count, updatedAt := m.now }
            chats := Keyed.erase number record.chats },
          markDeleted id)

/-! ## Messages -/

/-- The message that a creation stores. -/
def newMessage (m : Moment) (id : Nat) (chat : Store.Chat) (number : Int) (body : String) :
    Message :=
  { id := idText id, chatId := chat.id, number, body, createdAt := m.now, updatedAt := m.now }

/-- The id is taken before the number, so a chat whose numbers are used up still takes ids. -/
def createMessage (token : String) (number : Int) (body : Option String) : StoreCall Message :=
  orRefuse (Store.validateBody body) fun body =>
    withChat token number fun m s record found =>
      let id := s.ids + 1
      let s := { s with ids := id }
      let allocated : Answer (Int × Int) := do
        let number ← Store.nextAfter found.chat.lastMessageNumber
        let count ← (CounterUpdate.increment .messages).apply found.chat.messagesCount
        pure (number, count)
      match allocated with
      | .error e => (s, refuse e)
      | .ok (number, count) =>
        let message := newMessage m id found.chat number body
        (s.updateChat record fun found =>
          { found with
            chat :=
              { found.chat with
                lastMessageNumber := number, messagesCount := count, updatedAt := m.now }
            messages := Keyed.putAscending number message found.messages },
          reply message)

def countMessages (token : String) (number : Int) : StoreCall Nat :=
  withChat token number fun _ s _ record => (s, reply record.messages.length)

def listMessages (token : String) (number : Int) (offset limit : Nat) : StoreCall (List Message) :=
  withChat token number fun _ s _ record =>
    (s, reply (Page.slice offset limit (record.messages.map (·.2))))

/-! ## Every operation -/

/-- The call for an operation. -/
def call : {α : Type} → Operation α → StoreCall α
  | _, .createApplication name => createApplication name
  | _, .countApplications => countApplications
  | _, .listApplications offset limit => listApplications offset limit
  | _, .findApplication token => findApplication token
  | _, .createChat token => createChat token
  | _, .findChat token number => findChat token number
  | _, .countChats token => countChats token
  | _, .listChats token offset limit => listChats token offset limit
  | _, .deleteChat token number => deleteChat token number
  | _, .createMessage token number body => createMessage token number body
  | _, .countMessages token number => countMessages token number
  | _, .listMessages token number offset limit => listMessages token number offset limit
  | _, .ping => reply ()

/-- Runs an operation from end to end. -/
def perform {α : Type} (m : Moment) (operation : Operation α) (s : State) : State × Answer α :=
  (call operation).run m s

end ChatService.Memory
