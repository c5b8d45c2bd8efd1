import ChatService.Proofs.Memory.Effects

/-!
# What creations leave behind

A creation that runs from end to end either adds what it is asked for or is refused; a refusal may
still use up an internal id.  What a creation adds is said here together with its answer, for any
number of records.
-/

namespace ChatService.Memory

open Store (Application Message Operation Answer CounterUpdate)

variable {m : Moment} {s s' : State} {token : String} {number : Int}

/-- What the creation of an application or of a chat does to the store. -/
inductive Plants (m : Moment) (s : State) : State → Prop where
  | nothing : Plants m s s
  | waste : Plants m s s.takeId
  | application {name : String} (hname : Text.isBlank name = false)
      (hfree : Keyed.get? m.token s.applications = none) :
      Plants m s (s.takeId.store (newApplication m (s.ids + 1) name))
  | chat {token : String} {found : ApplicationRecord} {number count : Int}
      (hfound : Keyed.get? token s.applications = some found)
      (hnumber : Store.nextAfter found.application.lastChatNumber = .ok number)
      (hcount : (CounterUpdate.increment .chats).apply found.application.chatsCount = .ok count) :
      Plants m s (s.link m token found.application number count)

theorem plants_createApplication (name : Option String) :
    Plants m s (perform m (.createApplication name) s).1 := by
  obtain ⟨e, hresult | hresult⟩ | ⟨name, hname, hfree, hresult⟩ :=
    (effect_createApplication (m := m) (s := s) name).creates
  · rw [hresult]; exact .nothing
  · rw [hresult]; exact .waste
  · rw [hresult]; exact .application (isBlank_of_requireText hname) hfree

theorem plants_createChat (token : String) : Plants m s (perform m (.createChat token) s).1 := by
  obtain ⟨e, hresult | hresult⟩ | ⟨found, number, count, hfound, hnumber, hcount, hresult⟩ :=
    (effect_createChat (m := m) (s := s) token).creates
  · rw [hresult]; exact .nothing
  · rw [hresult]; exact .waste
  · rw [hresult]; exact .chat hfound hnumber hcount

/-- What the creation of a message does to the store, with its answer. -/
inductive Posts (m : Moment) (s : State) (token : String) (number : Int) :
    State × Answer Message → Prop where
  | nothing (e : StoreError) : Posts m s token number (s, .error e)
  | waste (e : StoreError) : Posts m s token number (s.takeId, .error e)
  | message {record : Nat} {chat : ChatRecord} {next count : Int} {body : String}
      (hlink : LinkedAt s token number record) (hchat : Keyed.get? record s.chats = some chat)
      (hnumber : Store.nextAfter chat.chat.lastMessageNumber = .ok next)
      (hcount : (CounterUpdate.increment .messages).apply chat.chat.messagesCount = .ok count) :
      Posts m s token number
        (s.post m record chat.chat next count body,
          .ok (newMessage m (s.ids + 1) chat.chat next body))

theorem Connected.posts_createMessage (h : Connected s) (token : String) (number : Int)
    (body : Option String) :
    Posts m s token number (perform m (.createMessage token number body) s) := by
  obtain ⟨e, hresult | hresult⟩ |
      ⟨body, record, chat, next, count, -, hlink, hchat, hnumber, hcount, hresult⟩ :=
    (h.effect_createMessage (m := m) token number body).creates
  · rw [hresult]; exact .nothing e
  · rw [hresult]; exact .waste e
  · rw [hresult]; exact .message hlink hchat hnumber hcount

/-- A creation keeps links and records in order. -/
theorem Linkage.of_plants (h : Linkage s) (hplants : Plants m s s') : Linkage s' := by
  cases hplants with
  | nothing => exact h
  | waste => exact h.takeId
  | application hname hfree => exact h.takeId.store hfree
  | chat hfound hnumber hcount => exact h.link hfound (Store.nextAfter_eq_ok hnumber).2

end ChatService.Memory
