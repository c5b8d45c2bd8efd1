import ChatService.Store.Model

/-!
# What a store can be asked

Every operation on a store of applications, chats and messages, with the type of its answer.
Applications are listed newest first, chats and messages by ascending number; a listing skips
`offset` items and returns at most `limit`.
-/

namespace ChatService.Store

inductive Operation : Type → Type where
  | createApplication (name : Option String) : Operation Application
  | countApplications : Operation Nat
  | listApplications (offset limit : Nat) : Operation (List Application)
  | findApplication (token : String) : Operation Application
  | createChat (token : String) : Operation Chat
  | findChat (token : String) (number : Int) : Operation Chat
  | countChats (token : String) : Operation Nat
  | listChats (token : String) (offset limit : Nat) : Operation (List Chat)
  /-- Deletes a chat with its messages. -/
  | deleteChat (token : String) (number : Int) : Operation Unit
  | createMessage (token : String) (number : Int) (body : Option String) : Operation Message
  | countMessages (token : String) (number : Int) : Operation Nat
  | listMessages (token : String) (number : Int) (offset limit : Nat) : Operation (List Message)
  | ping : Operation Unit

/-- What an operation answers. -/
abbrev Answer (α : Type) : Type := Except StoreError α

end ChatService.Store
