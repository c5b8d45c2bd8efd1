import ChatService.Locking
import ChatService.Memory.Store

/-!
# The locks of the in-memory store

Every operation with the locks that it takes and the scopes that it takes them for.  What is found
in one scope is used in the next: a chat is looked up under the lock of its application, and the
scope of that lock ends before the lock of the chat is taken.
-/

namespace ChatService.Memory.Locking

open Store (Application Message Operation Answer CounterUpdate)

/-- A call on the store, one step at a time. -/
abbrev StoreTask (α : Type) : Type := Task State Moment Lock (Answer α)

variable {α β : Type}

/-- Goes on after a success. -/
def orEnd (next : α → StoreTask β) : Answer α → StoreTask β
  | .ok a => next a
  | .error e => .done (.error e)

/-! ## Applications -/

/-- Finds an application, then acts on its record under its lock. -/
def underApplication (token : String)
    (body : Moment → State → ApplicationRecord → State × Answer α) : StoreTask α :=
  (Task.look fun s => Keyed.get? token s.applications).bind fun
    | none => .done (.error (.applicationNotFound token))
    | some _ =>
      .guarded (.application token) <| .now fun m s =>
        match Keyed.get? token s.applications with
        | none => (s, .error (.applicationNotFound token))
        | some record => body m s record

/-- Stores an application, unless its token is taken. -/
def storeApplication (application : Application) : StoreTask Application :=
  .now fun _ s =>
    match Keyed.get? application.token s.applications with
    | some _ => (s, .error (.constraintViolation "token already taken"))
    | none =>
      let applications := Keyed.put application.token ⟨application, []⟩ s.applications
      ({ s with applications }, .ok application)

def createApplication (name : Option String) : StoreTask Application :=
  orEnd (fun name =>
    (Task.now fun m s => ({ s with ids := s.ids + 1 }, newApplication m (s.ids + 1) name)).bind
      storeApplication)
    (Store.validateName name)

def countApplications : StoreTask Nat := .look fun s => .ok s.applications.length

/-- Reads applications one after the other, each in a scope under its lock. -/
def readApplications : List String → List Application → Task State Moment Lock (List Application)
  | [], read => .done read.reverse
  | token :: tokens, read =>
    (Task.guarded (.application token) <| .look fun s => Keyed.get? token s.applications).bind fun
      | some record => readApplications tokens (record.application :: read)
      | none => readApplications tokens read

def listApplications (offset limit : Nat) : StoreTask (List Application) :=
  (Task.look fun s => s.applications.map (·.1)).bind fun tokens =>
    (readApplications tokens []).map fun applications =>
      .ok (Page.slice offset limit (applications.mergeSort newestFirst))

def findApplication (token : String) : StoreTask Application :=
  underApplication token fun _ s record => (s, .ok record.application)

/-! ## Chats -/

def createChat (token : String) : StoreTask Store.Chat :=
  underApplication token fun m s record =>
    let application := record.application
    let allocated : Answer (Int × Int) := do
      let number ← Store.nextAfter application.lastChatNumber
      let count ← (CounterUpdate.increment .chats).apply application.chatsCount
      pure (number, count)
    match allocated with
    | .error e => (s, .error e)
    | .ok (number, count) =>
      let id := s.ids + 1
      let chat := newChat m id application number
      let s := s.updateApplication token fun record =>
        { application :=
            { record.application with
              lastChatNumber := number, chatsCount := count, updatedAt := m.now }
          chats := Keyed.putAscending number id record.chats }
      ({ s with chats := Keyed.put id ⟨chat, [], false⟩ s.chats, ids := id }, .ok chat)

/-- The record that is linked under a number, looked up under the lock of the application. -/
def linkOf (token : String) (number : Int) : StoreTask Nat :=
  underApplication token fun _ s record =>
    match Keyed.get? number record.chats with
    | none => (s, .error (.chatNotFound token number))
    | some id => (s, .ok id)

/-- Looks a chat up, then acts on its record under its lock. -/
def underChat (token : String) (number : Int)
    (body : Moment → State → Nat → ChatRecord → State × Answer α) : StoreTask α :=
  (linkOf token number).bind <| orEnd fun id =>
    .guarded (.chat id) <| .now fun m s =>
      match Keyed.get? id s.chats with
      | none => (s, .error (.chatNotFound token number))
      | some record =>
        if record.deleted then (s, .error (.chatNotFound token number)) else body m s id record

def findChat (token : String) (number : Int) : StoreTask Store.Chat :=
  underChat token number fun _ s _ record => (s, .ok record.chat)

def countChats (token : String) : StoreTask Nat :=
  underApplication token fun _ s record => (s, .ok record.chats.length)

/-- Reads chats one after the other, each in a scope under its lock. -/
def readChats : List Nat → List Store.Chat → StoreTask (List Store.Chat)
  | [], read => .done (.ok read.reverse)
  | id :: ids, read =>
    (Task.guarded (.chat id) <| .look fun s => Keyed.get? id s.chats).bind fun
      | some record => readChats ids (if record.deleted then read else record.chat :: read)
      | none => readChats ids read

def listChats (token : String) (offset limit : Nat) : StoreTask (List Store.Chat) :=
  (underApplication token fun _ s record =>
    (s, .ok ((Page.slice offset limit record.chats).map (·.2)))).bind <|
  orEnd fun page => readChats page []

/-- Takes the link of a chat away under the lock of its application; the record that it led to. -/
def unlink (token : String) (number : Int) : StoreTask Nat :=
  underApplication token fun m s record =>
    match Keyed.get? number record.chats with
    | none => (s, .error (.chatNotFound token number))
    | some id =>
      match (CounterUpdate.decrement .chats).apply record.application.chatsCount with
      | .error e => (s, .error e)
      | .ok count =>
        (s.updateApplication token fun record =>
          { application := { record.application with chatsCount := count, updatedAt := m.now }
            chats := Keyed.erase number record.chats }, .ok id)

def deleteChat (token : String) (number : Int) : StoreTask Unit :=
  (unlink token number).bind <| orEnd fun id =>
    .guarded (.chat id) <| .now fun _ s =>
      (s.updateChat id fun record => { record with messages := [], deleted := true }, .ok ())

/-! ## Messages -/

def createMessage (token : String) (number : Int) (body : Option String) : StoreTask Message :=
  orEnd (fun body =>
    underChat token number fun m s record found =>
      let id := s.ids + 1
      let s := { s with ids := id }
      let allocated : Answer (Int × Int) := do
        let number ← Store.nextAfter found.chat.lastMessageNumber
        let count ← (CounterUpdate.increment .messages).apply found.chat.messagesCount
        pure (number, count)
      match allocated with
      | .error e => (s, .error e)
      | .ok (number, count) =>
        let message := newMessage m id found.chat number body
        (s.updateChat record fun found =>
          { found with
            chat :=
              { found.chat with
                lastMessageNumber := number, messagesCount := count, updatedAt := m.now }
            messages := Keyed.putAscending number message found.messages }, .ok message))
    (Store.validateBody body)

def countMessages (token : String) (number : Int) : StoreTask Nat :=
  underChat token number fun _ s _ record => (s, .ok record.messages.length)

def listMessages (token : String) (number : Int) (offset limit : Nat) : StoreTask (List Message) :=
  underChat token number fun _ s _ record =>
    (s, .ok (Page.slice offset limit (record.messages.map (·.2))))

/-! ## Every operation -/

/-- The task for an operation. -/
def task : {α : Type} → Operation α → StoreTask α
  | _, .createApplication name => createApplication name
  | _, .countApplications => countApplications
  | _, .listApplications offset limit => listApplications offset limit
  | _, .findApplication token => findApplication token
  | _, .createChat token => createChat token
  | _, .findChat token number => findChat token number
  | _, .countChats token => countChats token
  | _, .listChats token offset limit => listChats token offset limit
  | _, .deleteChat token number => deleteChat token number
  | _, .createMessage token number body => createMessage token number body
  | _, .countMessages token number => countMessages token number
  | _, .listMessages token number offset limit => listMessages token number offset limit
  | _, .ping => .done (.ok ())

end ChatService.Memory.Locking
