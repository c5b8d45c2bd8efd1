import ChatService.Proofs.Memory.Growth

/-!
# Numbers without gaps

Numbers start at 1 and never leave the signed 64-bit range, and a chat that is not deleted holds a
message under every number that it handed out.  So the message with number `n` is the `n`-th of its
chat, and no listing is longer than its numbers reach.  Chats of an application have no such order:
a deleted one leaves a gap.

Like `Linkage`, none of this needs that internal ids differ, so it holds however many things were
created.
-/

namespace ChatService.Memory

open Store (Application Message Operation Answer)

attribute [local irreducible] idText

variable {m : Moment} {s s' : State} {held held' : Holding} {token : String} {number count : Int}
  {record : Nat}

/-- A number that a parent may have handed out last. -/
def HandedOut (last : Int) : Prop := 0 ≤ last ∧ last ≤ Word.maxInt64

theorem handedOut_zero : HandedOut 0 := ⟨Int.le_refl 0, by decide⟩

theorem handedOut_of_nextAfter {last next : Int} (h : Store.nextAfter last = .ok next) :
    HandedOut next ∧ 1 ≤ next := by
  obtain ⟨hlast, rfl⟩ := Store.nextAfter_eq_ok h
  have hrange := (Store.isInt64_of_nextAfter h).2
  exact ⟨⟨by omega, hrange⟩, by omega⟩

/-- The chats of an application are numbered from 1. -/
structure NumberedChats (found : ApplicationRecord) : Prop where
  last : HandedOut found.application.lastChatNumber
  from_one : ∀ number ∈ Keyed.keys found.chats, 1 ≤ number

/-- The messages of a chat are numbered from 1 without a gap, unless the chat is deleted. -/
structure NumberedMessages (chat : ChatRecord) : Prop where
  last : HandedOut chat.chat.lastMessageNumber
  all : chat.deleted = false →
    Keyed.keys chat.messages = numbersTo chat.chat.lastMessageNumber

/-- Numbers start at 1, stay in range, and those of messages have no gaps. -/
structure Gapless (s : State) : Prop where
  chats : ∀ token found, Keyed.get? token s.applications = some found → NumberedChats found
  messages : ∀ record chat, Keyed.get? record s.chats = some chat → NumberedMessages chat

theorem gapless_empty : Gapless .empty where
  chats := by simp [State.empty, Keyed.get?]
  messages := by simp [State.empty, Keyed.get?]

/-! ## one record -/

/-- The keys after an insertion. -/
theorem mem_keys_putAscending {ν : Type} {key other : Int} {value : ν} {entries : Keyed Int ν} :
    other ∈ Keyed.keys (Keyed.putAscending key value entries) ↔
      other = key ∨ other ∈ Keyed.keys entries := by
  have hiff : ∀ entries : Keyed Int ν, other ∈ Keyed.keys entries ↔
      Keyed.get? other entries ≠ none := fun entries => by
    rw [Ne, Keyed.get?_eq_none_iff, not_not]
  rw [hiff, hiff, Keyed.get?_putAscending]
  split
  · next heq => simp [heq]
  · next hne => simp [Ne.symm hne]

theorem NumberedChats.addLink {found : ApplicationRecord} (h : NumberedChats found)
    (hnumber : Store.nextAfter found.application.lastChatNumber = .ok number) :
    NumberedChats (found.addLink m number count record) where
  last := (handedOut_of_nextAfter hnumber).1
  from_one other hother := by
    obtain rfl | hmem := mem_keys_putAscending.mp hother
    · exact (handedOut_of_nextAfter hnumber).2
    · exact h.from_one other hmem

theorem NumberedChats.removeLink {found : ApplicationRecord} (h : NumberedChats found) :
    NumberedChats (found.removeLink m number count) where
  last := h.last
  from_one other hother := h.from_one other ((Keyed.keys_erase_sublist number _).subset hother)

theorem NumberedMessages.mark {chat : ChatRecord} (h : NumberedMessages chat) :
    NumberedMessages chat.mark where
  last := h.last
  all hlive := by simp [ChatRecord.mark] at hlive

/-- The next number goes to the end, and leaves no gap. -/
theorem NumberedMessages.addMessage {chat : ChatRecord} {message : Message}
    (h : NumberedMessages chat) (hlive : chat.deleted = false)
    (hnumber : Store.nextAfter chat.chat.lastMessageNumber = .ok number) :
    NumberedMessages (chat.addMessage m number count message) where
  last := (handedOut_of_nextAfter hnumber).1
  all _ := by
    obtain ⟨hlast, rfl⟩ := Store.nextAfter_eq_ok hnumber
    have hbelow : ∀ other ∈ Keyed.keys chat.messages,
        other < chat.chat.lastMessageNumber + 1 := fun other hother => by
      rw [h.all hlive, mem_numbersTo] at hother
      omega
    simp only [ChatRecord.addMessage, Keyed.putAscending_eq_append hbelow, Keyed.keys_append,
      h.all hlive, numbersTo_add_one hlast]
    rfl

/-! ## what every move keeps -/

section Moves

variable {body : String} {found : ApplicationRecord} {chat : ChatRecord} {application : Application}
  {next : Int}

theorem Gapless.takeId (h : Gapless s) : Gapless s.takeId := ⟨h.chats, h.messages⟩

theorem Gapless.store (h : Gapless s) (hlast : application.lastChatNumber = 0) :
    Gapless (s.store application) where
  chats token found hfound := by
    obtain ⟨-, rfl⟩ | hold := stored_cases hfound
    · exact ⟨hlast ▸ handedOut_zero, by simp⟩
    · exact h.chats token found hold
  messages := h.messages

theorem Gapless.link (h : Gapless s) (hfound : Keyed.get? token s.applications = some found)
    (hnumber : Store.nextAfter found.application.lastChatNumber = .ok number) :
    Gapless (s.link m token application number count) where
  chats token' found' hfound' := by
    obtain ⟨rfl, rfl⟩ | ⟨-, hold⟩ := linked_cases hfound hfound'
    · exact (h.chats token' found hfound).addLink hnumber
    · exact h.chats token' found' hold
  messages record chat hchat := by
    obtain ⟨-, rfl⟩ | hold := chats_link_cases hchat
    · exact ⟨handedOut_zero, fun _ => rfl⟩
    · exact h.messages record chat hold

theorem Gapless.unlink (h : Gapless s) : Gapless (s.unlink m token number count) where
  chats token' found hfound := by
    rw [get?_applications_unlink] at hfound
    split at hfound
    · obtain ⟨found, hold, rfl⟩ := Option.map_eq_some_iff.mp hfound
      exact (h.chats token' found hold).removeLink
    · exact h.chats token' found hfound
  messages := h.messages

theorem Gapless.mark (h : Gapless s) : Gapless (s.mark record) where
  chats := h.chats
  messages record' chat hchat := by
    obtain ⟨before, hbefore, ⟨-, rfl⟩ | ⟨-, rfl⟩⟩ := marked_cases hchat
    · exact (h.messages record' before hbefore).mark
    · exact h.messages record' chat hbefore

theorem Gapless.post (h : Gapless s) (hchat : Keyed.get? record s.chats = some chat)
    (hlive : chat.deleted = false)
    (hnumber : Store.nextAfter chat.chat.lastMessageNumber = .ok next) :
    Gapless (s.post m record chat.chat next count body) where
  chats := h.chats
  messages record' chat' hchat' := by
    obtain ⟨rfl, rfl⟩ | ⟨-, hold⟩ := posted_cases hchat hchat'
    · exact (h.messages record' chat hchat).addMessage hlive hnumber
    · exact h.messages record' chat' hold

end Moves

/-- **Whatever an operation does, it leaves no gap.** -/
theorem Effect.gapless {α : Type} {operation : Operation α} {result : State × Answer α}
    (heffect : Effect m s operation result) (h : Gapless s) : Gapless result.1 := by
  cases heffect with
  | read hread answer => exact h
  | refused e => exact h
  | wasted e => exact h.takeId
  | stored hname hfree => exact h.takeId.store rfl
  | linked hfound hnumber hcount => exact h.link hfound hnumber
  | removed hfound hlink hcount => exact h.unlink.mark
  | posted hbody hlink hchat hlive hnumber hcount => exact h.post hchat hlive hnumber

/-- A creation leaves no gap. -/
theorem Gapless.of_plants (h : Gapless s) (hplants : Plants m s s') : Gapless s' := by
  cases hplants with
  | nothing => exact h
  | waste => exact h.takeId
  | application hname hfree => exact h.takeId.store rfl
  | chat hfound hnumber hcount => exact h.link hfound hnumber

/-! ## what the numbers say about listings -/

/-- A chat has no more messages than it handed out numbers. -/
theorem NumberedMessages.length_eq {chat : ChatRecord} (h : NumberedMessages chat)
    (hlive : chat.deleted = false) :
    chat.messages.length = chat.chat.lastMessageNumber.toNat := by
  rw [← length_numbersTo, ← h.all hlive, Keyed.keys, List.length_map]

/-- Numbers from 1 in ascending order are no more than the last of them. -/
theorem length_le_of_numberedTo {ν : Type} {last : Int} {entries : Keyed Int ν}
    (h : NumberedTo last entries) (hfrom : ∀ number ∈ Keyed.keys entries, 1 ≤ number) :
    entries.length ≤ last.toNat := by
  have hsubset : Keyed.keys entries ⊆ numbersTo last := fun number hnumber =>
    mem_numbersTo.mpr ⟨hfrom number hnumber, h.2 number hnumber⟩
  have hlength := (h.nodup.subperm hsubset).length_le
  rwa [length_numbersTo, Keyed.keys, List.length_map] at hlength

/-- The chats of an application are no more than the numbers it handed out. -/
theorem Gapless.chats_length_le {found : ApplicationRecord} (h : Gapless s) (hlinkage : Linkage s)
    (hfound : Keyed.get? token s.applications = some found) :
    found.chats.length ≤ Word.maxUInt64 := by
  have hnumbered := h.chats token found hfound
  have hlength := length_le_of_numberedTo (hlinkage.chats token found hfound) hnumbered.from_one
  have hlast := hnumbered.last.2
  unfold Word.maxInt64 at hlast
  unfold Word.maxUInt64
  omega

/-- The messages of a chat are no more than the numbers it handed out. -/
theorem Gapless.messages_length_le {chat : ChatRecord} (h : Gapless s)
    (hchat : Keyed.get? record s.chats = some chat) (hlive : chat.deleted = false) :
    chat.messages.length ≤ Word.maxUInt64 := by
  have hnumbered := h.messages record chat hchat
  have hlength := hnumbered.length_eq hlive
  have hlast := hnumbered.last.2
  unfold Word.maxInt64 at hlast
  unfold Word.maxUInt64
  omega

end ChatService.Memory
