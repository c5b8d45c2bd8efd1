import ChatService.Proofs.Memory.Linkage
import ChatService.Proofs.Memory.Preservation

/-!
# Whose chat a record is

A chat record names the application that it was created for and never changes hands: while it is
linked it is linked there, under its own number, and once it is not it is linked nowhere again.  So
a call that has found a record under a token and a number may hold on to it for as long as it likes.
-/

namespace ChatService.Memory

variable {m : Moment} {s s' : State} {helds : List Holding} {held held' : Holding} {token : String}
  {number : Int} {record : Nat}

/-- A chat record that belongs to an application under a number. -/
structure Owned (s : State) (token : String) (number : Int) (record : Nat) : Prop where
  /-- It names the application and the number, -/
  home : ∃ found chat, Keyed.get? token s.applications = some found ∧
    Keyed.get? record s.chats = some chat ∧
    chat.chat.applicationId = found.application.id ∧ chat.chat.number = number
  /-- and is linked nowhere else. -/
  sole : ∀ token' number', LinkedAt s token' number' record → token' = token ∧ number' = number

/-- Every linked record belongs to where it is linked. -/
structure Homed (s : State) : Prop extends Linkage s where
  owned : ∀ token number record, LinkedAt s token number record → Owned s token number record

theorem homed_empty : Homed .empty where
  toLinkage := linkage_empty
  owned := by simp [LinkedAt, State.empty, Keyed.get?]

/-! ## what a move keeps -/

theorem extends_of_move (h : Linkage s) (hmove : Move held m s s' held') : Extends s s' := by
  cases hmove with
  | look | refuse | find | letGo => exact extends_refl
  | make | waste => exact extends_takeId
  | store hfree => exact extends_store hfree
  | link hfound => exact extends_link h.given hfound
  | unlink hfound => exact extends_unlink hfound
  | mark => exact extends_mark
  | post => exact extends_post

/-- A record stays with its owner. -/
theorem Owned.of_extends (h : Owned s token number record) (hlinkage : Linkage s)
    (hextends : Extends s s') : Owned s' token number record where
  home := show Backed s' (.found token number record) from .of_extends hextends h.home
  sole token' number' hlink := by
    obtain ⟨found', hfound', hlink'⟩ := hlink
    obtain ⟨-, chat, -, hchat, -⟩ := h.home
    have hgiven : record ≤ s.ids := hlinkage.given record chat hchat
    exact h.sole token' number' (hextends.link token' found' number' record hfound' hlink' hgiven)

/-- A link that was not there before is that of a new record of its application. -/
theorem owned_link {found : ApplicationRecord} {count : Int} (h : Linkage s)
    (hfound : Keyed.get? token s.applications = some found)
    (hnumber : number = found.application.lastChatNumber + 1) :
    Owned (s.link m token found.application number count) token number (s.ids + 1) where
  home := by
    refine ⟨found.addLink m number count (s.ids + 1),
      ⟨newChat m (s.ids + 1) found.application number, [], false⟩, ?_, ?_, rfl, rfl⟩
    · rw [get?_applications_link, if_pos rfl, hfound, Option.map_some]
    · rw [get?_chats_link, if_pos rfl]
  sole token' number' hlink := by
    obtain hold | ⟨htoken, hnumber', -⟩ := (h.linkedAt_next hfound hnumber).mp hlink
    · have := h.le_ids hold
      omega
    · exact ⟨htoken, hnumber'⟩

/-- Every link after a move was there before, or is that of a new record of its application. -/
theorem linkedAt_or_owned (h : Linkage s) (hmove : Move held m s s' held')
    (hlink : LinkedAt s' token number record) :
    LinkedAt s token number record ∨ Owned s' token number record := by
  cases hmove with
  | look | refuse | find | letGo => exact .inl hlink
  | make | waste => exact .inl hlink
  | store hfree => exact .inl ((linkedAt_store hfree).mp hlink)
  | @link _ _ token' found number' count hfound hnumber hcount =>
      have hnext := (Store.nextAfter_eq_ok hnumber).2
      obtain hold | ⟨rfl, rfl, rfl⟩ := (h.linkedAt_next hfound hnext).mp hlink
      · exact .inl hold
      · exact .inr (owned_link h hfound hnext)
  | unlink hfound => exact .inl ((linkedAt_unlink hfound).mp hlink).1
  | mark => exact .inl (linkedAt_mark.mp hlink)
  | post => exact .inl (linkedAt_post.mp hlink)

/-- **Every move leaves linked records where they belong.** -/
theorem Homed.of_move (h : Homed s) (hlinkage : Linkage s') (hmove : Move held m s s' held') :
    Homed s' where
  toLinkage := hlinkage
  owned token number record hlink := by
    obtain hold | howned := linkedAt_or_owned h.toLinkage hmove hlink
    · exact (h.owned token number record hold).of_extends h.toLinkage
        (extends_of_move h.toLinkage hmove)
    · exact howned

end ChatService.Memory
