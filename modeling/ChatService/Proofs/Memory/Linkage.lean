import ChatService.Proofs.Memory.Bookkeeping
import ChatService.Proofs.Memory.Lookups

/-!
# Links of the in-memory store

A link leads to a chat record that is not deleted, no record has two links, and what is numbered
stands in ascending order.  Unlike the facts about internal ids, all of this holds however many
things were created: it rests on the numbers of records, which never repeat, and not on the texts
that are made of them.

`Linkage` speaks of the records alone.  `Grounded` adds what running calls hold: a record that some
call has found keeps its place or was taken out of it by a call that has yet to mark it.
-/

namespace ChatService.Memory

open Store (Application Message Operation CounterUpdate)

attribute [local irreducible] idText

variable {m : Moment} {s s' : State} {helds : List Holding} {n : Nat} {held held' : Holding}
  {token : String} {number count : Int} {record : Nat}

/-! ## ascending numbers -/

section Numbered

variable {ν : Type} {last : Int} {entries : Keyed Int ν} {value : ν}

/-- Numbers stand in ascending order and go no further than some number. -/
def NumberedTo (last : Int) (entries : Keyed Int ν) : Prop :=
  (Keyed.keys entries).Pairwise (· < ·) ∧ ∀ key ∈ Keyed.keys entries, key ≤ last

theorem numberedTo_nil : NumberedTo last ([] : Keyed Int ν) := ⟨.nil, by simp⟩

theorem NumberedTo.nodup (h : NumberedTo last entries) : (Keyed.keys entries).Nodup :=
  h.1.imp fun hlt => Int.ne_of_lt hlt

theorem NumberedTo.get?_next (h : NumberedTo last entries) :
    Keyed.get? (last + 1) entries = none :=
  Keyed.get?_eq_none_iff.mpr fun hmem => by have := h.2 _ hmem; omega

theorem NumberedTo.putAscending_eq (h : NumberedTo last entries) :
    Keyed.putAscending (last + 1) value entries = entries ++ [(last + 1, value)] :=
  Keyed.putAscending_eq_append fun other hother => by have := h.2 other hother; omega

theorem NumberedTo.putAscending (h : NumberedTo last entries) :
    NumberedTo (last + 1) (Keyed.putAscending (last + 1) value entries) := by
  rw [h.putAscending_eq]
  refine ⟨?_, fun key hkey => ?_⟩
  · rw [Keyed.keys_append]
    refine List.pairwise_append.mpr
      ⟨h.1, List.pairwise_singleton _ _, fun key hkey other hother => ?_⟩
    obtain rfl : other = last + 1 := by simpa using hother
    have := h.2 key hkey
    omega
  · simp only [Keyed.keys_append, List.mem_append, Keyed.keys_cons, Keyed.keys_nil,
      List.mem_singleton] at hkey
    obtain hkey | rfl := hkey
    · have := h.2 key hkey
      omega
    · exact Int.le_refl _

theorem NumberedTo.erase (h : NumberedTo last entries) (key : Int) :
    NumberedTo last (Keyed.erase key entries) :=
  ⟨h.1.sublist (Keyed.keys_erase_sublist key entries),
    fun other hother => h.2 other ((Keyed.keys_erase_sublist key entries).subset hother)⟩

end Numbered

/-! ## links -/

/-- A chat record that is linked under a token and a number. -/
def LinkedAt (s : State) (token : String) (number : Int) (record : Nat) : Prop :=
  ∃ found, Keyed.get? token s.applications = some found ∧
    Keyed.get? number found.chats = some record

/-- A place has one link at most. -/
theorem LinkedAt.unique {record' : Nat} (h : LinkedAt s token number record)
    (h' : LinkedAt s token number record') : record = record' := by
  obtain ⟨found, hfound, hlink⟩ := h
  obtain ⟨found', hfound', hlink'⟩ := h'
  rw [hfound] at hfound'
  cases hfound'
  exact Option.some.inj (hlink.symm.trans hlink')

/-- What holds of applications, links and chat records. -/
structure Linkage (s : State) : Prop where
  tokens : (Keyed.keys s.applications).Nodup
  records : (Keyed.keys s.chats).Nodup
  token : ∀ token found, Keyed.get? token s.applications = some found →
    found.application.token = token
  chats : ∀ token found, Keyed.get? token s.applications = some found →
    NumberedTo found.application.lastChatNumber found.chats
  given : ∀ record chat, Keyed.get? record s.chats = some chat → record ≤ s.ids
  live : ∀ token number record, LinkedAt s token number record →
    ∃ chat, Keyed.get? record s.chats = some chat ∧ chat.deleted = false ∧
      chat.chat.number = number
  once : ∀ token number token' number' record, LinkedAt s token number record →
    LinkedAt s token' number' record → token = token' ∧ number = number'
  messages : ∀ record chat, Keyed.get? record s.chats = some chat →
    NumberedTo chat.chat.lastMessageNumber chat.messages
  numbers : ∀ record chat, Keyed.get? record s.chats = some chat →
    ∀ entry ∈ chat.messages, entry.2.number = entry.1

theorem linkage_empty : Linkage .empty where
  tokens := .nil
  records := .nil
  token := by simp [State.empty, Keyed.get?]
  chats := by simp [State.empty, Keyed.get?]
  given := by simp [State.empty, Keyed.get?]
  live := by simp [LinkedAt, State.empty, Keyed.get?]
  once := by simp [LinkedAt, State.empty, Keyed.get?]
  messages := by simp [State.empty, Keyed.get?]
  numbers := by simp [State.empty, Keyed.get?]

theorem Linkage.connected (h : Linkage s) : Connected s := by
  intro token number record hrecord
  obtain ⟨chat, hchat, hlive, -⟩ := h.live token number record (lookupChat_eq_ok.mp hrecord)
  have hat : s.chatAt record = chat := by rw [State.chatAt, hchat, Option.getD_some]
  exact ⟨hat.symm ▸ hchat, hat.symm ▸ hlive⟩

/-- A link that is there was given out before. -/
theorem Linkage.le_ids (h : Linkage s) (hlink : LinkedAt s token number record) :
    record ≤ s.ids := by
  obtain ⟨chat, hchat, -⟩ := h.live token number record hlink
  exact h.given record chat hchat

theorem Linkage.get?_chats_next (h : Linkage s) : Keyed.get? (s.ids + 1) s.chats = none := by
  cases hchat : Keyed.get? (s.ids + 1) s.chats with
  | none => rfl
  | some chat =>
      have := h.given _ chat hchat
      omega

/-! ## chats of an application -/

section Chats

variable {found : ApplicationRecord}

theorem Linkage.mem_chats_iff (h : Linkage s)
    (hfound : Keyed.get? token s.applications = some found) :
    (number, record) ∈ found.chats ↔ LinkedAt s token number record := by
  rw [← Keyed.get?_eq_some_iff_mem (h.chats token found hfound).nodup]
  refine ⟨fun hlink => ⟨found, hfound, hlink⟩, fun ⟨found', hfound', hlink⟩ => ?_⟩
  obtain rfl := Option.some.inj (hfound.symm.trans hfound')
  exact hlink

/-- What a link leads to. -/
theorem Linkage.chatAt_of_linkedAt (h : Linkage s) (hlink : LinkedAt s token number record) :
    Keyed.get? record s.chats = some (s.chatAt record) ∧
      (s.chatAt record).chat.number = number := by
  obtain ⟨chat, hchat, -, hnumber⟩ := h.live token number record hlink
  have hat : s.chatAt record = chat := by rw [State.chatAt, hchat, Option.getD_some]
  exact ⟨hat.symm ▸ hchat, hat.symm ▸ hnumber⟩

/-- A chat of an application is one that a link of the application leads to. -/
theorem Linkage.mem_chatsOf_iff (h : Linkage s)
    (hfound : Keyed.get? token s.applications = some found) {chat : Store.Chat} :
    chat ∈ s.chatsOf found ↔ ∃ number record entry, LinkedAt s token number record ∧
      Keyed.get? record s.chats = some entry ∧ entry.chat = chat := by
  constructor
  · intro hmem
    obtain ⟨⟨number, record⟩, hentry, rfl⟩ := List.mem_map.mp hmem
    have hlink := (h.mem_chats_iff hfound).mp hentry
    exact ⟨number, record, _, hlink, (h.chatAt_of_linkedAt hlink).1, rfl⟩
  · rintro ⟨number, record, entry, hlink, hentry, rfl⟩
    refine List.mem_map.mpr ⟨(number, record), (h.mem_chats_iff hfound).mpr hlink, ?_⟩
    rw [State.chatAt, hentry, Option.getD_some]

/-- The chats of an application stand in the order of their numbers. -/
theorem Linkage.chatsOf_ascending (h : Linkage s)
    (hfound : Keyed.get? token s.applications = some found) :
    (s.chatsOf found).Pairwise fun a b => a.number < b.number := by
  have hnumber : ∀ entry ∈ found.chats, (s.chatAt entry.2).chat.number = entry.1 :=
    fun entry hentry => (h.chatAt_of_linkedAt ((h.mem_chats_iff hfound).mp hentry)).2
  have hascending := List.pairwise_map.mp (h.chats token found hfound).1
  refine List.pairwise_map.mpr (hascending.imp_of_mem fun ha hb hlt => ?_)
  rw [hnumber _ ha, hnumber _ hb]
  exact hlt

theorem Linkage.perform_listChats (h : Linkage s) {offset limit : Nat} :
    Memory.perform m (.listChats token offset limit) s =
      (s, (s.lookupApplication token).map fun found =>
        Page.slice offset limit (s.chatsOf found)) :=
  h.connected.perform_listChats fun found hfound =>
    (h.chats token found (lookupApplication_eq_ok.mp hfound)).nodup

end Chats

/-! ## links after a move -/

section Moves

variable {token' body : String} {number' next : Int} {record' : Nat} {found : ApplicationRecord}
  {chat : ChatRecord} {application : Application}

theorem linkedAt_store (hfree : Keyed.get? application.token s.applications = none) :
    LinkedAt (s.store application) token number record ↔ LinkedAt s token number record := by
  unfold LinkedAt
  rw [get?_applications_store]
  split
  · next heq => subst heq; simp [hfree, Keyed.get?]
  · rfl

theorem linkedAt_link (hfound : Keyed.get? token s.applications = some found)
    (hfree : Keyed.get? number found.chats = none) :
    LinkedAt (s.link m token application number count) token' number' record ↔
      LinkedAt s token' number' record ∨
        token' = token ∧ number' = number ∧ record = s.ids + 1 := by
  unfold LinkedAt
  rw [get?_applications_link]
  by_cases htoken : token = token'
  · subst htoken
    simp only [if_true, hfound, Option.map_some, Option.some.injEq, exists_eq_left',
      ApplicationRecord.addLink, Keyed.get?_putAscending]
    by_cases hnumber : number = number'
    · subst hnumber
      simp [hfree, eq_comm]
    · simp [hnumber, Ne.symm hnumber]
  · simp [htoken, Ne.symm htoken]

/-- The next number of an application is free, so that no link is lost when a chat is given it. -/
theorem Linkage.linkedAt_next (h : Linkage s)
    (hfound : Keyed.get? token s.applications = some found)
    (hnumber : number = found.application.lastChatNumber + 1) :
    LinkedAt (s.link m token application number count) token' number' record ↔
      LinkedAt s token' number' record ∨
        token' = token ∧ number' = number ∧ record = s.ids + 1 :=
  linkedAt_link hfound (hnumber ▸ (h.chats token found hfound).get?_next)

theorem linkedAt_unlink (hfound : Keyed.get? token s.applications = some found) :
    LinkedAt (s.unlink m token number count) token' number' record ↔
      LinkedAt s token' number' record ∧ ¬(token' = token ∧ number' = number) := by
  unfold LinkedAt
  rw [get?_applications_unlink]
  by_cases htoken : token = token'
  · subst htoken
    simp only [if_true, hfound, Option.map_some, Option.some.injEq, exists_eq_left',
      ApplicationRecord.removeLink, Keyed.get?_erase]
    by_cases hnumber : number = number'
    · subst hnumber; simp
    · simp [hnumber, Ne.symm hnumber]
  · simp [htoken, Ne.symm htoken]

theorem linkedAt_mark :
    LinkedAt (s.mark record) token' number' record' ↔ LinkedAt s token' number' record' := .rfl

theorem linkedAt_post {chat : Store.Chat} :
    LinkedAt (s.post m record chat next count body) token' number' record' ↔
      LinkedAt s token' number' record' := .rfl

/-! ## what every move keeps -/

theorem Linkage.takeId (h : Linkage s) : Linkage s.takeId :=
  { h with given := fun record chat hchat => Nat.le_succ_of_le (h.given record chat hchat) }

theorem Linkage.store (h : Linkage s)
    (hfree : Keyed.get? application.token s.applications = none) :
    Linkage (s.store application) where
  tokens := Keyed.nodup_keys_put h.tokens
  records := h.records
  token token found hfound := by
    obtain ⟨rfl, rfl⟩ | hold := stored_cases hfound
    · rfl
    · exact h.token token found hold
  chats token found hfound := by
    obtain ⟨-, rfl⟩ | hold := stored_cases hfound
    · exact numberedTo_nil
    · exact h.chats token found hold
  given := h.given
  live token number record hlink := h.live token number record ((linkedAt_store hfree).mp hlink)
  once token number token' number' record hlink hlink' :=
    h.once token number token' number' record ((linkedAt_store hfree).mp hlink)
      ((linkedAt_store hfree).mp hlink')
  messages := h.messages
  numbers := h.numbers

theorem Linkage.link (h : Linkage s) (hfound : Keyed.get? token s.applications = some found)
    (hnumber : number = found.application.lastChatNumber + 1) :
    Linkage (s.link m token application number count) where
  tokens := by simpa only [State.link, State.updateApplication, Keyed.keys_update] using h.tokens
  records := Keyed.nodup_keys_put h.records
  token token' found' hfound' := by
    obtain ⟨rfl, rfl⟩ | ⟨-, hold⟩ := linked_cases hfound hfound'
    · exact h.token token' found hfound
    · exact h.token token' found' hold
  chats token' found' hfound' := by
    obtain ⟨rfl, rfl⟩ | ⟨-, hold⟩ := linked_cases hfound hfound'
    · subst hnumber
      exact (h.chats token' found hfound).putAscending
    · exact h.chats token' found' hold
  given record chat hchat := by
    obtain ⟨rfl, -⟩ | hold := chats_link_cases hchat
    · exact Nat.le_refl _
    · exact Nat.le_succ_of_le (h.given record chat hold)
  live token' number' record hlink := by
    rw [get?_chats_link]
    obtain hold | ⟨-, rfl, rfl⟩ := (h.linkedAt_next hfound hnumber).mp hlink
    · have hle := h.le_ids hold
      rw [if_neg (by omega)]
      exact h.live token' number' record hold
    · exact ⟨_, if_pos rfl, rfl, rfl⟩
  once token₁ number₁ token₂ number₂ record hlink₁ hlink₂ := by
    obtain hold₁ | ⟨rfl, rfl, rfl⟩ := (h.linkedAt_next hfound hnumber).mp hlink₁
    · obtain hold₂ | ⟨rfl, rfl, rfl⟩ := (h.linkedAt_next hfound hnumber).mp hlink₂
      · exact h.once _ _ _ _ _ hold₁ hold₂
      · have := h.le_ids hold₁
        omega
    · obtain hold₂ | ⟨rfl, rfl, -⟩ := (h.linkedAt_next hfound hnumber).mp hlink₂
      · have := h.le_ids hold₂
        omega
      · exact ⟨rfl, rfl⟩
  messages record chat hchat := by
    obtain ⟨-, rfl⟩ | hold := chats_link_cases hchat
    · exact numberedTo_nil
    · exact h.messages record chat hold
  numbers record chat hchat := by
    obtain ⟨-, rfl⟩ | hold := chats_link_cases hchat
    · simp
    · exact h.numbers record chat hold

theorem Linkage.unlink (h : Linkage s) (hfound : Keyed.get? token s.applications = some found) :
    Linkage (s.unlink m token number count) where
  tokens := by simpa only [State.unlink, State.updateApplication, Keyed.keys_update] using h.tokens
  records := h.records
  token token' found' hfound' := by
    obtain ⟨rfl, rfl⟩ | ⟨-, hold⟩ := unlinked_cases hfound hfound'
    · exact h.token token' found hfound
    · exact h.token token' found' hold
  chats token' found' hfound' := by
    obtain ⟨rfl, rfl⟩ | ⟨-, hold⟩ := unlinked_cases hfound hfound'
    · exact (h.chats token' found hfound).erase number
    · exact h.chats token' found' hold
  given := h.given
  live token' number' record hlink :=
    h.live token' number' record ((linkedAt_unlink hfound).mp hlink).1
  once token₁ number₁ token₂ number₂ record hlink₁ hlink₂ :=
    h.once token₁ number₁ token₂ number₂ record ((linkedAt_unlink hfound).mp hlink₁).1
      ((linkedAt_unlink hfound).mp hlink₂).1
  messages := h.messages
  numbers := h.numbers

theorem Linkage.mark (h : Linkage s)
    (hfree : ∀ token number, ¬LinkedAt s token number record) : Linkage (s.mark record) where
  tokens := h.tokens
  records := by simpa only [State.mark, State.updateChat, Keyed.keys_update] using h.records
  token := h.token
  chats := h.chats
  given record' chat hchat := by
    obtain ⟨before, hbefore, -⟩ := marked_cases hchat
    exact h.given record' before hbefore
  live token number record' hlink := by
    have hne : record ≠ record' := fun heq => hfree token number (heq ▸ hlink)
    rw [get?_chats_mark, if_neg hne]
    exact h.live token number record' hlink
  once := h.once
  messages record' chat hchat := by
    obtain ⟨before, hbefore, ⟨-, rfl⟩ | ⟨-, rfl⟩⟩ := marked_cases hchat
    · exact numberedTo_nil
    · exact h.messages record' chat hbefore
  numbers record' chat hchat := by
    obtain ⟨before, hbefore, ⟨-, rfl⟩ | ⟨-, rfl⟩⟩ := marked_cases hchat
    · simp [ChatRecord.mark]
    · exact h.numbers record' chat hbefore

theorem Linkage.post (h : Linkage s) (hchat : Keyed.get? record s.chats = some chat)
    (hnext : next = chat.chat.lastMessageNumber + 1) :
    Linkage (s.post m record chat.chat next count body) where
  tokens := h.tokens
  records := by
    simpa only [State.post, State.updateChat, State.takeId, Keyed.keys_update] using h.records
  token := h.token
  chats := h.chats
  given record' chat' hchat' := by
    obtain ⟨rfl, rfl⟩ | ⟨-, hold⟩ := posted_cases hchat hchat'
    · exact Nat.le_succ_of_le (h.given record' chat hchat)
    · exact Nat.le_succ_of_le (h.given record' chat' hold)
  live token number record' hlink := by
    obtain ⟨chat', hchat', hlive, hnumber⟩ := h.live token number record' hlink
    rw [get?_chats_post]
    split
    · exact ⟨_, congrArg (Option.map _) hchat', hlive, hnumber⟩
    · exact ⟨chat', hchat', hlive, hnumber⟩
  once := h.once
  messages record' chat' hchat' := by
    obtain ⟨rfl, rfl⟩ | ⟨-, hold⟩ := posted_cases hchat hchat'
    · subst hnext
      exact (h.messages record' chat hchat).putAscending
    · exact h.messages record' chat' hold
  numbers record' chat' hchat' := by
    obtain ⟨rfl, rfl⟩ | ⟨-, hold⟩ := posted_cases hchat hchat'
    · subst hnext
      intro entry hentry
      rw [ChatRecord.addMessage, (h.messages record' chat hchat).putAscending_eq] at hentry
      obtain hold | hlast := List.mem_append.mp hentry
      · exact h.numbers record' chat hchat entry hold
      · obtain rfl := List.mem_singleton.mp hlast
        rfl
    · exact h.numbers record' chat' hold

end Moves

/-! ## what running calls hold -/

/-- A chat record by whether it is deleted. -/
def HasRecord (s : State) (record : Nat) (deleted : Bool) : Prop :=
  ∃ chat, Keyed.get? record s.chats = some chat ∧ chat.deleted = deleted

/-- What holds of a chat record that a call has found under a token and a number: if it has a link,
the link is there, and if it has none, the chat was deleted or is being deleted. -/
structure Reached (s : State) (helds : List Holding) (token : String) (number : Int)
    (record : Nat) : Prop where
  given : record ≤ s.ids
  place : ∀ token' number', LinkedAt s token' number' record → token' = token ∧ number' = number
  fate : LinkedAt s token number record ∨ HasRecord s record true ∨
    .unlinked token number record ∈ helds

/-- What holds of records and of what calls hold of them. -/
structure Grounded (s : State) (helds : List Holding) : Prop extends Linkage s where
  found : ∀ token number record, .found token number record ∈ helds →
    Reached s helds token number record
  unlinked : ∀ token number record, .unlinked token number record ∈ helds →
    HasRecord s record false ∧ ∀ token' number', ¬LinkedAt s token' number' record
  sole : ∀ (n n' : Nat) token number token' number' record,
    helds[n]? = some (.unlinked token number record) →
    helds[n']? = some (.unlinked token' number' record) → n = n'

theorem grounded_of_idle (h : Linkage s) (hidle : ∀ held ∈ helds, held = .idle) :
    Grounded s helds where
  toLinkage := h
  found token number record hheld := absurd (hidle _ hheld) (by simp)
  unlinked token number record hheld := absurd (hidle _ hheld) (by simp)
  sole n n' token number token' number' record hheld :=
    absurd (hidle _ (List.mem_of_getElem? hheld)) (by simp)

theorem getElem?_set_cases {α : Type*} {xs : List α} {k n : Nat} {x y : α}
    (h : (xs.set n x)[k]? = some y) : (k = n ∧ y = x) ∨ (k ≠ n ∧ xs[k]? = some y) := by
  by_cases hkn : n = k
  · subst hkn
    obtain ⟨hlt, -⟩ := List.getElem?_eq_some_iff.mp h
    rw [List.getElem?_set_self (by simpa using hlt)] at h
    exact .inl ⟨rfl, (Option.some.inj h).symm⟩
  · exact .inr ⟨Ne.symm hkn, by rwa [List.getElem?_set_ne hkn] at h⟩

/-- A call that is followed by the same call, or by one that is not the one replaced, is still
there. -/
theorem mem_set_of_ne {other : Holding} (hheld : helds[n]? = some held) (hother : other ∈ helds)
    (hne : other ≠ held) : other ∈ helds.set n held' := by
  obtain ⟨k, hk⟩ := List.mem_iff_getElem?.mp hother
  have hkn : n ≠ k := by
    rintro rfl
    rw [hheld] at hk
    exact hne (Option.some.inj hk).symm
  exact List.mem_iff_getElem?.mpr ⟨k, by rwa [List.getElem?_set_ne hkn]⟩

/-- A change that leaves the links and the fate of all records that were there. -/
structure Spares (s s' : State) : Prop where
  ids : s.ids ≤ s'.ids
  links : ∀ token number record, record ≤ s.ids →
    (LinkedAt s' token number record ↔ LinkedAt s token number record)
  fates : ∀ record deleted, HasRecord s record deleted → HasRecord s' record deleted

theorem Reached.of_spares {helds' : List Holding} (h : Reached s helds token number record)
    (hspares : Spares s s')
    (hheld : .unlinked token number record ∈ helds → .unlinked token number record ∈ helds') :
    Reached s' helds' token number record where
  given := Nat.le_trans h.given hspares.ids
  place token' number' hlink := h.place token' number' ((hspares.links _ _ _ h.given).mp hlink)
  fate :=
    h.fate.imp (hspares.links _ _ _ h.given).mpr (Or.imp (hspares.fates record true) hheld)

/-- A call that neither takes a link away nor marks a record. -/
theorem Grounded.of_spares (h : Grounded s helds) (hlinkage : Linkage s') (hspares : Spares s s')
    (hheld : helds[n]? = some held)
    (hold : ∀ token number record, held ≠ .unlinked token number record)
    (hnew : ∀ token number record, held' ≠ .unlinked token number record)
    (hfound : ∀ token number record, held' = .found token number record →
      LinkedAt s token number record) : Grounded s' (helds.set n held') where
  toLinkage := hlinkage
  found token number record hmem := by
    have hstay : Holding.unlinked token number record ∈ helds →
        Holding.unlinked token number record ∈ helds.set n held' :=
      fun hunlinked => mem_set_of_ne hheld hunlinked (hold _ _ _).symm
    obtain hmem | rfl := List.mem_or_eq_of_mem_set hmem
    · exact (h.found token number record hmem).of_spares hspares hstay
    · have hlink := hfound token number record rfl
      have hgiven := h.le_ids hlink
      exact ⟨Nat.le_trans hgiven hspares.ids,
        fun token' number' hlink' =>
          h.once _ _ _ _ record ((hspares.links _ _ _ hgiven).mp hlink') hlink,
        .inl ((hspares.links _ _ _ hgiven).mpr hlink)⟩
  unlinked token number record hmem := by
    obtain hmem | heq := List.mem_or_eq_of_mem_set hmem
    · obtain ⟨⟨chat, hchat, hlive⟩, hfree⟩ := h.unlinked token number record hmem
      refine ⟨hspares.fates record false ⟨chat, hchat, hlive⟩, fun token' number' hlink => ?_⟩
      exact hfree token' number' ((hspares.links _ _ _ (h.given record chat hchat)).mp hlink)
    · exact absurd heq.symm (hnew token number record)
  sole k k' token number token' number' record hk hk' := by
    obtain ⟨-, heq⟩ | ⟨-, hk⟩ := getElem?_set_cases hk
    · exact absurd heq.symm (hnew token number record)
    obtain ⟨-, heq⟩ | ⟨-, hk'⟩ := getElem?_set_cases hk'
    · exact absurd heq.symm (hnew token' number' record)
    exact h.sole k k' token number token' number' record hk hk'

theorem hasRecord_of_update {record' : Nat} {f : ChatRecord → ChatRecord} {deleted : Bool}
    (hchats : Keyed.get? record' s'.chats = if record = record' then
      (Keyed.get? record' s.chats).map f else Keyed.get? record' s.chats)
    (hf : ∀ chat, (f chat).deleted = chat.deleted) (h : HasRecord s record' deleted) :
    HasRecord s' record' deleted := by
  obtain ⟨chat, hchat, hdeleted⟩ := h
  unfold HasRecord
  rw [hchats]
  split
  · exact ⟨f chat, congrArg (Option.map f) hchat, (hf chat).trans hdeleted⟩
  · exact ⟨chat, hchat, hdeleted⟩

section Steps

variable {found : ApplicationRecord} {chat : ChatRecord} {body : String} {next : Int}

theorem Linkage.spares_link (h : Linkage s) (hfound : Keyed.get? token s.applications = some found)
    (hnumber : number = found.application.lastChatNumber + 1) :
    Spares s (s.link m token found.application number count) where
  ids := Nat.le_succ _
  links token' number' record hgiven := by
    rw [h.linkedAt_next hfound hnumber]
    exact ⟨fun hlink => hlink.resolve_right fun heq => by omega, .inl⟩
  fates record deleted hrecord := by
    obtain ⟨chat, hchat, hdeleted⟩ := hrecord
    have hgiven := h.given record chat hchat
    exact ⟨chat, by rw [get?_chats_link, if_neg (by omega)]; exact hchat, hdeleted⟩

theorem spares_post : Spares s (s.post m record chat.chat next count body) where
  ids := Nat.le_succ _
  links _ _ _ _ := .rfl
  fates _ _ := hasRecord_of_update get?_chats_post fun _ => rfl

theorem spares_takeId : Spares s s.takeId := ⟨Nat.le_succ _, fun _ _ _ _ => .rfl, fun _ _ h => h⟩

theorem spares_store {application : Application}
    (hfree : Keyed.get? application.token s.applications = none) :
    Spares s (s.store application) :=
  ⟨Nat.le_refl _, fun _ _ _ _ => linkedAt_store hfree, fun _ _ h => h⟩

theorem spares_refl : Spares s s := ⟨Nat.le_refl _, fun _ _ _ _ => .rfl, fun _ _ h => h⟩

section Unlink

variable (hheld : helds[n]? = some .idle)
  (hfound : Keyed.get? token s.applications = some found)
  (hlink : Keyed.get? number found.chats = some record)
include hheld hfound hlink

/-- A record that a call has found keeps its place, or is now held by the call that took its
link. -/
theorem Reached.unlink {token' : String} {number' : Int} {record' : Nat}
    (h : Reached s helds token' number' record') :
    Reached (s.unlink m token number count) (helds.set n (.unlinked token number record)) token'
      number' record' where
  given := h.given
  place _ _ hlink' := h.place _ _ ((linkedAt_unlink hfound).mp hlink').1
  fate := by
    obtain hlink' | hdeleted | hunlinked := h.fate
    · by_cases hhere : token' = token ∧ number' = number
      · obtain ⟨rfl, rfl⟩ := hhere
        obtain rfl := hlink'.unique ⟨found, hfound, hlink⟩
        exact .inr (.inr (List.mem_set (List.getElem?_eq_some_iff.mp hheld).1 _))
      · exact .inl ((linkedAt_unlink hfound).mpr ⟨hlink', hhere⟩)
    · exact .inr (.inl hdeleted)
    · exact .inr (.inr (mem_set_of_ne hheld hunlinked (by simp)))

/-- A call that takes a link away holds the only claim on its record. -/
theorem Grounded.unlink (h : Grounded s helds) :
    Grounded (s.unlink m token number count) (helds.set n (.unlinked token number record)) where
  toLinkage := h.toLinkage.unlink hfound
  found token' number' record' hmem := by
    have hmem : .found token' number' record' ∈ helds :=
      (List.mem_or_eq_of_mem_set hmem).resolve_right (by simp)
    exact (h.found token' number' record' hmem).unlink hheld hfound hlink
  unlinked token' number' record' hmem := by
    obtain hmem | heq := List.mem_or_eq_of_mem_set hmem
    · obtain ⟨hrecord, hfree⟩ := h.unlinked token' number' record' hmem
      exact ⟨hrecord, fun _ _ hlink' => hfree _ _ ((linkedAt_unlink hfound).mp hlink').1⟩
    · obtain ⟨rfl, rfl, rfl⟩ := Holding.unlinked.inj heq
      have hlinked : LinkedAt s token' number' record' := ⟨found, hfound, hlink⟩
      obtain ⟨chat, hchat, hlive, -⟩ := h.live _ _ _ hlinked
      refine ⟨⟨chat, hchat, hlive⟩, fun token₁ number₁ hlink' => ?_⟩
      obtain ⟨hlink', hne⟩ := (linkedAt_unlink hfound).mp hlink'
      exact hne (h.once _ _ _ _ _ hlink' hlinked)
  sole k k' token₁ number₁ token₂ number₂ record' hk hk' := by
    have hnone : ∀ {k : Nat} {token' number'},
        helds[k]? ≠ some (Holding.unlinked token' number' record) := fun hk =>
      (h.unlinked _ _ _ (List.mem_of_getElem? hk)).2 _ _ ⟨found, hfound, hlink⟩
    obtain ⟨rfl, heq⟩ | ⟨-, hold⟩ := getElem?_set_cases hk
    · obtain ⟨-, -, rfl⟩ := Holding.unlinked.inj heq
      obtain ⟨rfl, -⟩ | ⟨-, hold'⟩ := getElem?_set_cases hk'
      · rfl
      · exact absurd hold' hnone
    · obtain ⟨rfl, heq⟩ | ⟨-, hold'⟩ := getElem?_set_cases hk'
      · obtain ⟨-, -, rfl⟩ := Holding.unlinked.inj heq
        exact absurd hold hnone
      · exact h.sole k k' token₁ number₁ token₂ number₂ record' hold hold'

end Unlink

/-- The call that took the link of a record away marks it, and no other call has a claim on it. -/
theorem Grounded.mark (h : Grounded s helds)
    (hheld : helds[n]? = some (.unlinked token number record)) :
    Grounded (s.mark record) (helds.set n (.deleted token number)) := by
  obtain ⟨⟨chat, hchat, -⟩, hfree⟩ := h.unlinked token number record (List.mem_of_getElem? hheld)
  have hdeleted : HasRecord (s.mark record) record true :=
    ⟨chat.mark, by rw [get?_chats_mark, if_pos rfl, hchat]; rfl, rfl⟩
  have hother : ∀ record' deleted, record ≠ record' → HasRecord s record' deleted →
      HasRecord (s.mark record) record' deleted := fun record' deleted hne hrecord => by
    obtain ⟨chat', hchat', hdeleted'⟩ := hrecord
    exact ⟨chat', by rw [get?_chats_mark, if_neg hne]; exact hchat', hdeleted'⟩
  have hback : ∀ {k : Nat} {token' number' record'}, (helds.set n (.deleted token number))[k]? =
      some (Holding.unlinked token' number' record') →
      k ≠ n ∧ helds[k]? = some (Holding.unlinked token' number' record') := by
    intro k token' number' record' hk
    exact (getElem?_set_cases hk).resolve_left fun heq => by simp at heq
  constructor
  case toLinkage => exact h.toLinkage.mark hfree
  case found =>
    intro token' number' record' hmem
    have hmem : .found token' number' record' ∈ helds :=
      (List.mem_or_eq_of_mem_set hmem).resolve_right (by simp)
    obtain ⟨hgiven, hplace, hfate⟩ := h.found token' number' record' hmem
    refine ⟨hgiven, hplace, ?_⟩
    by_cases hrecord : record = record'
    · exact .inr (.inl (hrecord ▸ hdeleted))
    · refine hfate.imp id (Or.imp (hother _ _ hrecord) fun hunlinked => ?_)
      exact mem_set_of_ne hheld hunlinked fun heq => hrecord (Holding.unlinked.inj heq).2.2.symm
  case unlinked =>
    intro token' number' record' hmem
    obtain ⟨k, hk⟩ := List.mem_iff_getElem?.mp hmem
    obtain ⟨hkn, hk⟩ := hback hk
    obtain ⟨hrecord, hfree'⟩ := h.unlinked token' number' record' (List.mem_of_getElem? hk)
    refine ⟨hother record' false (fun heq => ?_) hrecord, hfree'⟩
    subst heq
    exact hkn (h.sole k n token' number' token number record hk hheld)
  case sole =>
    intro k k' token₁ number₁ token₂ number₂ record' hk hk'
    exact h.sole k k' token₁ number₁ token₂ number₂ record' (hback hk).2 (hback hk').2

/-- **Every move keeps it.** -/
theorem Grounded.of_move (h : Grounded s helds) (hheld : helds[n]? = some held)
    (hmove : Move held m s s' held') : Grounded s' (helds.set n held') := by
  cases hmove with
  | look => exact h.of_spares h.toLinkage spares_refl hheld (by simp) (by simp) (by simp)
  | make hname =>
      exact h.of_spares h.toLinkage.takeId spares_takeId hheld (by simp) (by simp) (by simp)
  | refuse => exact h.of_spares h.toLinkage spares_refl hheld (by simp) (by simp) (by simp)
  | store hfree =>
      exact h.of_spares (h.toLinkage.store hfree) (spares_store hfree) hheld (by simp) (by simp)
        (by simp)
  | link hfound hnumber hcount =>
      have hnext := (Store.nextAfter_eq_ok hnumber).2
      exact h.of_spares (h.toLinkage.link hfound hnext) (h.toLinkage.spares_link hfound hnext) hheld
        (by simp) (by simp) (by simp)
  | unlink hfound hlink hcount => exact h.unlink hheld hfound hlink
  | mark => exact h.mark hheld
  | find hfound hlink =>
      refine h.of_spares h.toLinkage spares_refl hheld (by simp) (by simp) ?_
      rintro token number record heq
      obtain ⟨rfl, rfl, rfl⟩ := Holding.found.inj heq
      exact ⟨_, hfound, hlink⟩
  | letGo => exact h.of_spares h.toLinkage spares_refl hheld (by simp) (by simp) (by simp)
  | waste =>
      exact h.of_spares h.toLinkage.takeId spares_takeId hheld (by simp) (by simp) (by simp)
  | post hbody hchat hlive hnumber hcount =>
      exact h.of_spares (h.toLinkage.post hchat (Store.nextAfter_eq_ok hnumber).2) spares_post hheld
        (by simp) (by simp) (by simp)

end Steps

/-- **Every operation keeps links and records in order**, however many there are. -/
theorem Linkage.perform {α : Type} (h : Linkage s) (operation : Operation α) :
    Linkage (perform m operation s).1 := by
  obtain ⟨held, -, hgrounded⟩ := (moves_call operation).run (i := m) (n := 0) (s := s) Grounded
    (fun hgrounded hheld hmove => hgrounded.of_move hheld hmove)
    (show [Holding.idle][0]? = some .idle from rfl) (grounded_of_idle h (by simp))
  exact hgrounded.toLinkage

end ChatService.Memory
