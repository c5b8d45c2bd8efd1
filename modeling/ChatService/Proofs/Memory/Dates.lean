import ChatService.Proofs.Memory.Growth
import ChatService.Proofs.Time.Rfc3339

/-!
# When things were created and changed

The store takes its moments from the clock.  As long as the clock shows moments that can be written,
every moment in the store can be written, and is read back from its text.
-/

namespace ChatService.Memory

open Store (Application Message)

attribute [local irreducible] idText

variable {m : Moment} {s s' : State} {token : String} {number count : Int} {record : Nat}

/-- Moments of a creation and of the last change that can be written. -/
structure Dated (createdAt updatedAt : Timestamp) : Prop where
  createdAt : createdAt.IsValid
  updatedAt : updatedAt.IsValid

/-- The texts of both moments are read back as them. -/
def Legible (createdAt updatedAt : Timestamp) : Prop :=
  Timestamp.parse? createdAt.render = some createdAt ∧
    Timestamp.parse? updatedAt.render = some updatedAt

theorem Dated.legible {createdAt updatedAt : Timestamp} (h : Dated createdAt updatedAt) :
    Legible createdAt updatedAt :=
  ⟨Timestamp.parse?_render h.createdAt, Timestamp.parse?_render h.updatedAt⟩

/-- Everything in the store is dated. -/
structure Dates (s : State) : Prop where
  applications : ∀ token found, Keyed.get? token s.applications = some found →
    Dated found.application.createdAt found.application.updatedAt
  chats : ∀ record found, Keyed.get? record s.chats = some found →
    Dated found.chat.createdAt found.chat.updatedAt
  messages : ∀ record found number message, Keyed.get? record s.chats = some found →
    Keyed.get? number found.messages = some message → Dated message.createdAt message.updatedAt

theorem dates_empty : Dates .empty where
  applications := by simp [State.empty, Keyed.get?]
  chats := by simp [State.empty, Keyed.get?]
  messages := by simp [State.empty, Keyed.get?]

section Moves

variable {body : String} {found : ApplicationRecord} {chat : ChatRecord} {application : Application}
  {next : Int}

theorem Dates.takeId (h : Dates s) : Dates s.takeId := ⟨h.applications, h.chats, h.messages⟩

theorem Dates.store (h : Dates s) (hdated : Dated application.createdAt application.updatedAt) :
    Dates (s.store application) where
  applications token found hfound := by
    obtain ⟨-, rfl⟩ | hold := stored_cases hfound
    · exact hdated
    · exact h.applications token found hold
  chats := h.chats
  messages := h.messages

theorem Dates.link (h : Dates s) (hnow : m.now.IsValid)
    (hfound : Keyed.get? token s.applications = some found) :
    Dates (s.link m token found.application number count) where
  applications token' found' hfound' := by
    obtain ⟨rfl, rfl⟩ | ⟨-, hold⟩ := linked_cases hfound hfound'
    · exact ⟨(h.applications token' found hfound).createdAt, hnow⟩
    · exact h.applications token' found' hold
  chats record chat hchat := by
    obtain ⟨-, rfl⟩ | hold := chats_link_cases hchat
    · exact ⟨hnow, hnow⟩
    · exact h.chats record chat hold
  messages record chat number message hchat hmessage := by
    obtain ⟨-, rfl⟩ | hold := chats_link_cases hchat
    · contradiction
    · exact h.messages record chat number message hold hmessage

theorem Dates.post (h : Dates s) (hnow : m.now.IsValid)
    (hchat : Keyed.get? record s.chats = some chat) :
    Dates (s.post m record chat.chat next count body) where
  applications := h.applications
  chats record' chat' hchat' := by
    obtain ⟨rfl, rfl⟩ | ⟨-, hold⟩ := posted_cases hchat hchat'
    · exact ⟨(h.chats record' chat hchat).createdAt, hnow⟩
    · exact h.chats record' chat' hold
  messages record' chat' number message hchat' hmessage := by
    obtain ⟨rfl, rfl⟩ | ⟨-, hold⟩ := posted_cases hchat hchat'
    · rw [ChatRecord.addMessage, Keyed.get?_putAscending] at hmessage
      split at hmessage
      · obtain rfl := Option.some.inj hmessage
        exact ⟨hnow, hnow⟩
      · exact h.messages record' chat number message hchat hmessage
    · exact h.messages record' chat' number message hold hmessage

end Moves

/-- A creation takes its moments from a clock that can be written. -/
theorem Dates.of_plants (h : Dates s) (hnow : m.now.IsValid) (hplants : Plants m s s') :
    Dates s' := by
  cases hplants with
  | nothing => exact h
  | waste => exact h.takeId
  | application hname hfree => exact h.takeId.store ⟨hnow, hnow⟩
  | chat hfound hnumber hcount => exact h.link hnow hfound

/-- A message that its chat lists is dated. -/
theorem Dates.of_mem_messages {found : ChatRecord} {message : Message} (h : Dates s)
    (hlinkage : Linkage s) (hfound : Keyed.get? record s.chats = some found)
    (hmem : message ∈ found.messages.map (·.2)) : Dated message.createdAt message.updatedAt := by
  obtain ⟨⟨number, message⟩, hentry, rfl⟩ := List.mem_map.mp hmem
  have hnodup := (hlinkage.messages record found hfound).nodup
  exact h.messages record found number message hfound
    ((Keyed.get?_eq_some_iff_mem hnodup).mpr hentry)

end ChatService.Memory
