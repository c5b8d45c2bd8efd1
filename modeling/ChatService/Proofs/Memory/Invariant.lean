import ChatService.Proofs.Keyed
import ChatService.Proofs.Memory.Moves
import ChatService.Proofs.Store.Counter
import ChatService.Proofs.Text.Hex
import Mathlib.Data.List.Perm.Subperm
import Mathlib.Data.List.Nodup

/-!
# The invariant of the in-memory store

What holds in every state between two sections, together with what the running calls hold.  Three
parts belong together and are kept by every move:

* `Shape`: the records themselves -- counts, numbers, links and homes;
* `Ids`: no internal id is used twice, ids of applications not stored yet included;
* `Numbers`: the numbers that calls hold within a parent are those from 1 up to its last one.

A chat record whose link is gone but which is not marked yet satisfies everything that a linked one
does: it still has its home, its messages are still numbered, and only the call that unlinked it
will mark it.  That is why no part of the invariant but `Backed` speaks of the window between the
two sections of a deletion.
-/

namespace ChatService.Memory

open Store (Application Message Operation Answer CounterUpdate Scope)

/-! ## internal ids -/

theorem idText_inj {m n : Nat} (hm : m < 16 ^ 24) (hn : n < 16 ^ 24) :
    idText m = idText n ↔ m = n := by
  unfold idText
  rw [String.ofList_inj, Text.hexDigits_inj hm hn]

/-- Ids compare as texts like their numbers. -/
theorem idText_lt_idText {m n : Nat} (hm : m < 16 ^ 24) (hn : n < 16 ^ 24) :
    idText m < idText n ↔ m < n := by
  have hlt : ∀ {i j : Nat}, j < 16 ^ 24 → i < j → idText i < idText j := fun hj h => by
    rw [String.lt_iff, idText, idText, String.toList_ofList, String.toList_ofList]
    exact Text.hexDigits_lt_hexDigits hj h
  refine ⟨fun h => ?_, hlt hn⟩
  by_contra hle
  obtain heq | hgt := Nat.eq_or_lt_of_le (Nat.le_of_not_lt hle)
  · exact String.lt_irrefl _ (heq ▸ h)
  · exact String.lt_asymm h (hlt hm hgt)

theorem idText_le_idText {m n : Nat} (hm : m < 16 ^ 24) (hn : n < 16 ^ 24) :
    idText m ≤ idText n ↔ m ≤ n := by
  rw [← String.not_lt, idText_lt_idText hn hm, Nat.not_lt]

attribute [local irreducible] idText

/-- An id that was given out. -/
def Used (s : State) (id : String) : Prop := ∃ n, 1 ≤ n ∧ n ≤ s.ids ∧ id = idText n

/-- The ids of a chat record: its own and those of its messages. -/
def recordIds (entry : Nat × ChatRecord) : List String :=
  entry.2.chat.id :: entry.2.messages.map (·.2.id)

/-- The ids of everything that is stored. -/
def storedIds (s : State) : List String :=
  s.applications.map (·.2.application.id) ++ s.chats.flatMap recordIds

/-- The id of an application that is not stored yet. -/
def Holding.madeId : Holding → Option String
  | .made application => some application.id
  | _ => none

/-- The ids of everything that is stored or about to be. -/
def allIds (s : State) (helds : List Holding) : List String :=
  storedIds s ++ helds.filterMap Holding.madeId

/-- Every id was given out, and none is used twice. -/
structure Ids (s : State) (helds : List Holding) : Prop where
  used : ∀ id ∈ allIds s helds, Used s id
  nodup : (allIds s helds).Nodup

/-! ## numbers -/

/-- The numbers from 1 to `n`. -/
def numbersTo (n : Int) : List Int := (List.range n.toNat).map fun (i : Nat) => (i : Int) + 1

theorem numbersTo_zero : numbersTo 0 = [] := rfl

theorem numbersTo_add_one {n : Int} (h : 0 ≤ n) : numbersTo (n + 1) = numbersTo n ++ [n + 1] := by
  have hsucc : (n + 1).toNat = n.toNat + 1 := by omega
  have hcast : ((n.toNat : Nat) : Int) = n := Int.toNat_of_nonneg h
  simp [numbersTo, hsucc, List.range_succ, hcast]

theorem mem_numbersTo {n k : Int} : k ∈ numbersTo n ↔ 1 ≤ k ∧ k ≤ n := by
  simp only [numbersTo, List.mem_map, List.mem_range]
  refine ⟨?_, fun h => ⟨(k - 1).toNat, by omega, by omega⟩⟩
  rintro ⟨i, hi, rfl⟩
  omega

theorem numbersTo_ascending (n : Int) : (numbersTo n).Pairwise (· < ·) :=
  List.pairwise_map.mpr (List.pairwise_lt_range.imp fun hlt => by omega)

theorem length_numbersTo (n : Int) : (numbersTo n).length = n.toNat := by simp [numbersTo]

/-- The numbers that calls hold within a parent. -/
def heldNumbers (scope : Scope) (helds : List Holding) : List Int :=
  helds.filterMap (Holding.numberWithin scope)

/-- The numbers held within a parent are those that the parent handed out. -/
structure Numbers (s : State) (helds : List Holding) : Prop where
  chats : ∀ token found, Keyed.get? token s.applications = some found →
    (heldNumbers (.application token) helds).Perm (numbersTo found.application.lastChatNumber)
  noChats : ∀ token, Keyed.get? token s.applications = none →
    heldNumbers (.application token) helds = []
  messages : ∀ token found record chat, Keyed.get? token s.applications = some found →
    Keyed.get? record s.chats = some chat → chat.chat.applicationId = found.application.id →
    (heldNumbers (.chat token chat.chat.number) helds).Perm
      (numbersTo chat.chat.lastMessageNumber)
  noMessages : ∀ token number,
    (∀ found record chat, Keyed.get? token s.applications = some found →
      Keyed.get? record s.chats = some chat → chat.chat.applicationId = found.application.id →
      chat.chat.number ≠ number) →
    heldNumbers (.chat token number) helds = []

/-! ## records -/

/-- What holds of an application and its links. -/
structure SoundApplication (s : State) (found : ApplicationRecord) : Prop where
  name : Text.isBlank found.application.name = false
  last_nonneg : 0 ≤ found.application.lastChatNumber
  counted : found.application.chatsCount = found.chats.length
  ascending : (Keyed.keys found.chats).Pairwise (· < ·)
  linked : ∀ number record, Keyed.get? number found.chats = some record →
    ∃ chat, Keyed.get? record s.chats = some chat ∧ chat.chat.number = number ∧
      chat.chat.applicationId = found.application.id ∧ chat.deleted = false

/-- What holds of a chat record, linked or not. -/
structure SoundChat (s : State) (record : Nat) (chat : ChatRecord) : Prop where
  given : record ≤ s.ids
  home : ∃ token found, Keyed.get? token s.applications = some found ∧
    found.application.id = chat.chat.applicationId
  inHome : ∀ token found, Keyed.get? token s.applications = some found →
    found.application.id = chat.chat.applicationId →
    1 ≤ chat.chat.number ∧ chat.chat.number ≤ found.application.lastChatNumber
  last_nonneg : 0 ≤ chat.chat.lastMessageNumber
  numbered : chat.deleted = false →
    Keyed.keys chat.messages = numbersTo chat.chat.lastMessageNumber
  counted : chat.deleted = false → chat.chat.messagesCount = chat.messages.length
  emptied : chat.deleted = true → chat.messages = []
  bodies : ∀ entry ∈ chat.messages, Text.isBlank entry.2.body = false

/-- What holds of the records. -/
structure Shape (s : State) : Prop where
  tokens : (Keyed.keys s.applications).Nodup
  records : (Keyed.keys s.chats).Nodup
  application : ∀ token found, Keyed.get? token s.applications = some found →
    SoundApplication s found
  chat : ∀ record chat, Keyed.get? record s.chats = some chat → SoundChat s record chat
  homes : ∀ record record' chat chat', Keyed.get? record s.chats = some chat →
    Keyed.get? record' s.chats = some chat' →
    chat.chat.applicationId = chat'.chat.applicationId → chat.chat.number = chat'.chat.number →
    record = record'

/-- What a holding says about the state. -/
def Backed (s : State) : Holding → Prop
  | .made application =>
    Text.isBlank application.name = false ∧ application.chatsCount = 0 ∧
      application.lastChatNumber = 0
  | .found token number record =>
    ∃ found chat, Keyed.get? token s.applications = some found ∧
      Keyed.get? record s.chats = some chat ∧
      chat.chat.applicationId = found.application.id ∧ chat.chat.number = number
  | .unlinked _ _ record =>
    record ≤ s.ids ∧ ∀ token found number, Keyed.get? token s.applications = some found →
      Keyed.get? number found.chats ≠ some record
  | _ => True

/-- **The invariant** of the store and the calls that run on it. -/
structure Inv (s : State) (helds : List Holding) : Prop where
  ids : Ids s helds
  shape : Shape s
  backed : ∀ held ∈ helds, Backed s held
  numbers : Numbers s helds

theorem inv_empty {helds : List Holding} (h : ∀ held ∈ helds, held = .idle) :
    Inv .empty helds := by
  have hnumbers : ∀ scope, heldNumbers scope helds = [] := fun scope =>
    List.filterMap_eq_nil_iff.mpr fun held hheld => by rw [h held hheld]; rfl
  have hids : allIds .empty helds = [] := by
    refine List.filterMap_eq_nil_iff.mpr fun held hheld => ?_
    rw [h held hheld]
    rfl
  exact
    { ids := ⟨by simp [hids], by simp [hids]⟩
      shape :=
        { tokens := .nil
          records := .nil
          application := by simp [State.empty, Keyed.get?]
          chat := by simp [State.empty, Keyed.get?]
          homes := by simp [State.empty, Keyed.get?] }
      backed := fun held hheld => by rw [h held hheld]; trivial
      numbers :=
        { chats := by simp [State.empty, Keyed.get?]
          noChats := fun _ _ => hnumbers _
          messages := by simp [State.empty, Keyed.get?]
          noMessages := fun _ _ _ => hnumbers _ } }

end ChatService.Memory
