import ChatService.Proofs.Memory.Removals
import ChatService.Proofs.Time.Reading

/-!
# The in-memory store between two operations

When operations run one after the other, the numbers, ids and times of all records are those of
operations that are over.  Each change that a whole operation makes keeps this.
-/

namespace ChatService.Memory

open Store (Message)

variable {m : Moment} {s s' : State} {token : String} {number : Int} {record : Nat}
  {found : ApplicationRecord} {chat : ChatRecord}

/-- What holds of an application between two operations. -/
structure TidyApplication (s : State) (token : String) (found : ApplicationRecord) : Prop where
  token : found.application.token = token
  count_le : found.application.chatsCount ≤ found.application.lastChatNumber
  last_le : found.application.lastChatNumber ≤ s.ids
  created : found.application.createdAt.IsReading
  updated : found.application.updatedAt.IsReading

/-- What holds of a message of a chat. -/
structure TidyMessage (chat : Store.Chat) (entry : Int × Message) : Prop where
  number : entry.2.number = entry.1
  chatId : entry.2.chatId = chat.id
  created : entry.2.createdAt.IsReading
  updated : entry.2.updatedAt.IsReading

/-- What holds of a chat record between two operations. -/
structure TidyChat (s : State) (record : Nat) (chat : ChatRecord) : Prop where
  id : chat.chat.id = idText record
  last_le : chat.chat.lastMessageNumber ≤ s.ids
  created : chat.chat.createdAt.IsReading
  updated : chat.chat.updatedAt.IsReading
  message : ∀ entry ∈ chat.messages, TidyMessage chat.chat entry

/-- What holds between two operations, besides what holds under every interleaving. -/
structure Tidy (s : State) : Prop where
  application : ∀ token found, Keyed.get? token s.applications = some found →
    TidyApplication s token found
  chat : ∀ record chat, Keyed.get? record s.chats = some chat → TidyChat s record chat

theorem tidy_empty : Tidy .empty where
  application := by simp [State.empty, Keyed.get?]
  chat := by simp [State.empty, Keyed.get?]

theorem TidyApplication.of_ids_le (h : TidyApplication s token found) (hle : s.ids ≤ s'.ids) :
    TidyApplication s' token found :=
  { h with last_le := Int.le_trans h.last_le (by omega) }

theorem TidyChat.of_ids_le (h : TidyChat s record chat) (hle : s.ids ≤ s'.ids) :
    TidyChat s' record chat :=
  { h with last_le := Int.le_trans h.last_le (by omega) }

/-! ## what operations leave -/

section Preserved

variable {count : Int}

theorem Tidy.store (h : Tidy s) (hnow : m.now.IsReading) (name : String) :
    Tidy (s.takeId.store (newApplication m (s.ids + 1) name)) where
  application token found hfound := by
    obtain ⟨rfl, rfl⟩ | hold := stored_cases hfound
    · exact ⟨rfl, Int.le_refl _, Int.natCast_nonneg _, hnow, hnow⟩
    · exact (h.application token found hold).of_ids_le (Nat.le_succ _)
  chat record chat hchat := (h.chat record chat hchat).of_ids_le (Nat.le_succ _)

theorem Tidy.link (h : Tidy s) (hfound : Keyed.get? token s.applications = some found)
    (hnumber : number = found.application.lastChatNumber + 1)
    (hcount : count = found.application.chatsCount + 1) (hnow : m.now.IsReading) :
    Tidy (s.link m token found.application number count) where
  application token' found' hfound' := by
    obtain ⟨rfl, rfl⟩ | ⟨-, hfound'⟩ := linked_cases hfound hfound'
    · have htidy := h.application token' found hfound
      refine { htidy with count_le := ?_, last_le := ?_, updated := hnow }
      · show count ≤ number
        have := htidy.count_le
        omega
      · show number ≤ ((s.ids + 1 : Nat) : Int)
        have := htidy.last_le
        omega
    · exact (h.application token' found' hfound').of_ids_le (Nat.le_succ _)
  chat record chat hchat := by
    obtain ⟨rfl, rfl⟩ | hchat := chats_link_cases hchat
    · exact ⟨rfl, Int.natCast_nonneg _, hnow, hnow, by simp⟩
    · exact (h.chat record chat hchat).of_ids_le (Nat.le_succ _)

/-- A chat that is unlinked and marked leaves nothing behind. -/
theorem Tidy.remove (h : Tidy s)
    (hfound : Keyed.get? token s.applications = some found)
    (hcount : count = found.application.chatsCount - 1) (hnow : m.now.IsReading) :
    Tidy ((s.unlink m token number count).mark record) where
  application token' found' hfound' := by
    obtain ⟨rfl, rfl⟩ | ⟨-, hfound'⟩ := unlinked_cases hfound hfound'
    · have htidy := h.application token' found hfound
      refine { htidy with count_le := ?_, updated := hnow }
      show count ≤ found.application.lastChatNumber
      have := htidy.count_le
      omega
    · exact (h.application token' found' hfound').of_ids_le (Nat.le_refl _)
  chat record' chat' hchat' := by
    obtain ⟨chat, hchat, ⟨-, rfl⟩ | ⟨-, rfl⟩⟩ := marked_cases hchat'
    · exact { h.chat record' chat hchat with message := by simp [ChatRecord.mark] }
    · exact (h.chat record' chat' hchat).of_ids_le (Nat.le_refl _)

theorem Tidy.post (h : Tidy s) (hshape : Shape s)
    (hchat : Keyed.get? record s.chats = some chat) (hlive : chat.deleted = false)
    (hnumber : number = chat.chat.lastMessageNumber + 1) (hnow : m.now.IsReading)
    (body : String) :
    Tidy (s.post m record chat.chat number count body) where
  application token found hfound := (h.application token found hfound).of_ids_le (Nat.le_succ _)
  chat record' chat' hchat' := by
    obtain ⟨rfl, rfl⟩ | ⟨-, hchat'⟩ := posted_cases hchat hchat'
    · have htidy := h.chat record' chat hchat
      refine { htidy with last_le := ?_, updated := hnow, message := fun entry hentry => ?_ }
      · show number ≤ ((s.ids + 1 : Nat) : Int)
        have := htidy.last_le
        omega
      · rw [(hshape.chat record' chat hchat).messages_addMessage hlive hnumber] at hentry
        obtain hold | hnew := List.mem_append.mp hentry
        · exact { htidy.message entry hold with }
        · obtain rfl := List.mem_singleton.mp hnew
          exact ⟨rfl, rfl, hnow, hnow⟩
    · exact (h.chat record' chat' hchat').of_ids_le (Nat.le_succ _)

end Preserved

end ChatService.Memory
