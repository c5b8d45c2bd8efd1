import ChatService.Store.Counter
import ChatService.Store.Operation

/-!
# Operations with their answers

What an answer hands out or takes away, what it says when internal ids are called something else,
and what is left of it without internal ids and timestamps.
-/

namespace ChatService.Store

variable {α : Type}

/-- An operation with the answer of its call. -/
inductive Outcome : Type 1 where
  | of {α : Type} (operation : Operation α) (answer : Answer α)

/-- The number that an answer hands out, with the parent it belongs to. -/
def numberOf : {α : Type} → Operation α → α → Option (Scope × Int)
  | _, .createChat token, chat => some (.application token, chat.number)
  | _, .createMessage token number _, message => some (.chat token number, message.number)
  | _, _, _ => none

/-- The number that a call handed out; a call that failed hands out none. -/
def Outcome.handedOut : Outcome → Option (Scope × Int)
  | .of operation answer => answer.toOption.bind (numberOf operation)

/-- The chat that a call deleted, by its application and its number; a call that failed deleted
none. -/
def Outcome.deleted : Outcome → Option (String × Int)
  | .of (.deleteChat token number) (.ok _) => some (token, number)
  | _ => none

/-! ## other internal ids -/

def Application.renamed (f : String → String) (a : Application) : Application :=
  { a with id := f a.id }

def Chat.renamed (f : String → String) (c : Chat) : Chat :=
  { c with id := f c.id, applicationId := f c.applicationId }

def Message.renamed (f : String → String) (m : Message) : Message :=
  { m with id := f m.id, chatId := f m.chatId }

/-- A value that an operation answers, with other internal ids. -/
def renamed (f : String → String) : {α : Type} → Operation α → α → α
  | _, .createApplication _, a | _, .findApplication _, a => a.renamed f
  | _, .listApplications .., applications => applications.map (·.renamed f)
  | _, .createChat _, c | _, .findChat .., c => c.renamed f
  | _, .listChats .., chats => chats.map (·.renamed f)
  | _, .createMessage .., m => m.renamed f
  | _, .listMessages .., messages => messages.map (·.renamed f)
  | _, .countApplications, n | _, .countChats _, n | _, .countMessages .., n => n
  | _, .deleteChat .., answer | _, .ping, answer => answer

/-- An outcome with other internal ids; an error stays as it is. -/
def Outcome.renamed (f : String → String) : Outcome → Outcome
  | .of operation answer => .of operation (answer.map (Store.renamed f operation))

/-! ## without internal ids and timestamps -/

def Application.bare (a : Application) : Application :=
  { a with id := "", createdAt := .epoch, updatedAt := .epoch }

def Chat.bare (c : Chat) : Chat :=
  { c with id := "", applicationId := "", createdAt := .epoch, updatedAt := .epoch }

def Message.bare (m : Message) : Message :=
  { m with id := "", chatId := "", createdAt := .epoch, updatedAt := .epoch }

/-- A value that an operation answers, without internal ids and timestamps. -/
def bare : {α : Type} → Operation α → α → α
  | _, .createApplication _, a | _, .findApplication _, a => a.bare
  | _, .listApplications .., applications => applications.map Application.bare
  | _, .createChat _, c | _, .findChat .., c => c.bare
  | _, .listChats .., chats => chats.map Chat.bare
  | _, .createMessage .., m => m.bare
  | _, .listMessages .., messages => messages.map Message.bare
  | _, .countApplications, n | _, .countChats _, n | _, .countMessages .., n => n
  | _, .deleteChat .., answer | _, .ping, answer => answer

/-- An outcome without internal ids and timestamps; an error has neither. -/
def Outcome.bare : Outcome → Outcome
  | .of operation answer => .of operation (answer.map (Store.bare operation))

end ChatService.Store
