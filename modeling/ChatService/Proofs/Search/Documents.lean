import ChatService.Proofs.Memory.Growth
import ChatService.Proofs.Search.Memory

/-!
# Documents and messages

The index holds one document for each message of the linked chats, and nothing else.  That a new
message never takes the place of another document rests on two facts: the id of a document tells its
token and both its numbers, because a number is written without a colon, and a new message has a
number that its chat never used.

What a search finds is then read off the messages of the chat, in their order.
-/

namespace ChatService.Search

open ChatService.Memory (ChatRecord LinkedAt Linkage Plants)
open Store (Message)

/-! ## messages that are filed -/

attribute [local irreducible] ChatService.Memory.idText

variable {store : ChatService.Memory.State} {index : Memory.State} {token : String} {number : Int}
  {record : Nat} {chat : ChatRecord} {d : Document} {m : ChatService.Memory.Moment}

/-- The documents of the messages of a chat record, under a token and a number. -/
def documentsOf (token : String) (number : Int) (chat : ChatRecord) : List Document :=
  chat.messages.map fun entry => .ofMessage token number entry.2

/-- A document of a message in a linked chat. -/
def Filed (store : ChatService.Memory.State) (d : Document) : Prop :=
  ∃ record chat, LinkedAt store d.applicationToken d.chatNumber record ∧
    Keyed.get? record store.chats = some chat ∧
    d ∈ documentsOf d.applicationToken d.chatNumber chat

/-- The index holds the documents of the messages in linked chats, each once, under its id. -/
structure Indexes (store : ChatService.Memory.State) (index : Memory.State) : Prop where
  keys : (Keyed.keys index).Nodup
  ids : ∀ entry ∈ index, entry.1 = entry.2.id
  documents : ∀ d, (d.id, d) ∈ index ↔ Filed store d

theorem Indexes.tidy (h : Indexes store index) : Memory.Tidy index := ⟨h.keys, h.ids⟩

theorem indexes_empty : Indexes .empty [] where
  keys := .nil
  ids := by simp
  documents := by simp [Filed, LinkedAt, ChatService.Memory.State.empty, Keyed.get?]

/-- Nothing is filed or taken away where links and chat records stay. -/
theorem Indexes.of_filed (h : Indexes store index) {store' : ChatService.Memory.State}
    (hfiled : ∀ d, Filed store' d ↔ Filed store d) : Indexes store' index :=
  { h with documents := fun d => (h.documents d).trans (hfiled d).symm }

section Growth

variable {found : ChatService.Memory.ApplicationRecord} {next count : Int} {body : String}

theorem filed_store {application : Store.Application}
    (hfree : Keyed.get? application.token store.applications = none) :
    Filed (store.store application) d ↔ Filed store d := by
  unfold Filed
  simp only [ChatService.Memory.linkedAt_store hfree]
  rfl

/-- A new chat has no messages. -/
theorem filed_link (h : Linkage store) (hfound : Keyed.get? token store.applications = some found)
    (hnumber : number = found.application.lastChatNumber + 1) :
    Filed (store.link m token found.application number count) d ↔ Filed store d := by
  unfold Filed
  constructor
  · rintro ⟨record, chat, hlink, hchat, hmem⟩
    rw [ChatService.Memory.get?_chats_link] at hchat
    obtain hold | ⟨-, -, rfl⟩ := (h.linkedAt_next hfound hnumber).mp hlink
    · have hle := h.le_ids hold
      rw [if_neg (by omega)] at hchat
      exact ⟨record, chat, hold, hchat, hmem⟩
    · rw [if_pos rfl] at hchat
      cases hchat
      simp [documentsOf] at hmem
  · rintro ⟨record, chat, hlink, hchat, hmem⟩
    have hle := h.le_ids hlink
    refine ⟨record, chat, (h.linkedAt_next hfound hnumber).mpr (.inl hlink), ?_, hmem⟩
    rw [ChatService.Memory.get?_chats_link, if_neg (by omega)]
    exact hchat

/-- A new message is filed under the place of its chat, and only there. -/
theorem filed_post (h : Linkage store) (hlink : LinkedAt store token number record)
    (hchat : Keyed.get? record store.chats = some chat)
    (hnext : next = chat.chat.lastMessageNumber + 1) :
    Filed (store.post m record chat.chat next count body) d ↔
      Filed store d ∨ d = .ofMessage token number
        (ChatService.Memory.newMessage m (store.ids + 1) chat.chat next body) := by
  have hmessages : ∀ message, Keyed.putAscending next message chat.messages =
      chat.messages ++ [(next, message)] := fun message =>
    hnext ▸ (h.messages record chat hchat).putAscending_eq
  have hposted : documentsOf token number (chat.addMessage m next count
      (ChatService.Memory.newMessage m (store.ids + 1) chat.chat next body)) =
      documentsOf token number chat ++ [.ofMessage token number
        (ChatService.Memory.newMessage m (store.ids + 1) chat.chat next body)] := by
    simp only [documentsOf, ChatService.Memory.ChatRecord.addMessage, hmessages, List.map_append,
      List.map_cons, List.map_nil]
  have hget : Keyed.get? record (store.post m record chat.chat next count body).chats =
      some (chat.addMessage m next count
        (ChatService.Memory.newMessage m (store.ids + 1) chat.chat next body)) := by
    rw [ChatService.Memory.get?_chats_post, if_pos rfl, hchat]
    rfl
  constructor
  · rintro ⟨record', chat', hlink', hchat', hmem⟩
    by_cases hrecord : record = record'
    · subst hrecord
      obtain ⟨htoken, hnumber⟩ := h.once _ _ _ _ record hlink hlink'
      rw [hget] at hchat'
      cases hchat'
      rw [← htoken, ← hnumber, hposted] at hmem
      obtain hold | hnew := List.mem_append.mp hmem
      · exact .inl ⟨record, chat, hlink', hchat, htoken ▸ hnumber ▸ hold⟩
      · exact .inr (List.mem_singleton.mp hnew)
    · rw [ChatService.Memory.get?_chats_post, if_neg hrecord] at hchat'
      exact .inl ⟨record', chat', hlink', hchat', hmem⟩
  · rintro (⟨record', chat', hlink', hchat', hmem⟩ | rfl)
    · by_cases hrecord : record = record'
      · subst hrecord
        obtain ⟨htoken, hnumber⟩ := h.once _ _ _ _ record hlink hlink'
        rw [hchat] at hchat'
        cases hchat'
        refine ⟨record, _, hlink', hget, ?_⟩
        rw [← htoken, ← hnumber, hposted]
        exact List.mem_append_left _ (htoken ▸ hnumber ▸ hmem)
      · refine ⟨record', chat', hlink', ?_, hmem⟩
        rw [ChatService.Memory.get?_chats_post, if_neg hrecord]
        exact hchat'
    · refine ⟨record, _, hlink, hget, ?_⟩
      show _ ∈ documentsOf token number _
      rw [hposted]
      exact List.mem_append_right _ List.mem_cons_self

/-- A new application or chat leaves the index right. -/
theorem Indexes.of_plants (h : Indexes store index) (hlinkage : Linkage store)
    {store' : ChatService.Memory.State} (hplants : Plants m store store') :
    Indexes store' index := by
  cases hplants with
  | nothing => exact h
  | waste => exact h.of_filed fun _ => .rfl
  | application hname hfree => exact h.of_filed fun _ => filed_store hfree
  | chat hfound hnumber hcount =>
      exact h.of_filed fun _ => filed_link hlinkage hfound (Store.nextAfter_eq_ok hnumber).2

/-- The document of a new message is new to the index. -/
theorem Indexes.get?_new (h : Indexes store index) (hlinkage : Linkage store)
    (hlink : LinkedAt store token number record)
    (hchat : Keyed.get? record store.chats = some chat) {message : Message}
    (hnew : message.number = chat.chat.lastMessageNumber + 1) :
    Keyed.get? (Document.ofMessage token number message).id index = none := by
  refine Keyed.get?_eq_none_iff.mpr fun hmem => ?_
  obtain ⟨⟨key, d⟩, hentry, hkey⟩ := List.mem_map.mp hmem
  obtain rfl : key = d.id := h.ids _ hentry
  obtain ⟨htoken, hnumber, hmessage⟩ := Document.id_inj hkey
  obtain ⟨record', chat', hlink', hchat', hfiled⟩ := (h.documents d).mp hentry
  rw [htoken, hnumber] at hlink' hfiled
  obtain rfl : record' = record := LinkedAt.unique hlink' hlink
  rw [hchat] at hchat'
  cases hchat'
  obtain ⟨entry, hold, rfl⟩ := List.mem_map.mp hfiled
  have hle := (hlinkage.messages _ chat hchat).2 entry.1 (Keyed.mem_keys_of_mem hold)
  have hentryNumber := hlinkage.numbers _ chat hchat entry hold
  have : entry.2.number = message.number := hmessage
  omega

/-- **A message that is stored and indexed in one request leaves the index right.** -/
theorem Indexes.post (h : Indexes store index) (hlinkage : Linkage store)
    (hlink : LinkedAt store token number record)
    (hchat : Keyed.get? record store.chats = some chat)
    (hnext : next = chat.chat.lastMessageNumber + 1) :
    Indexes (store.post m record chat.chat next count body)
      (Memory.add (.ofMessage token number
        (ChatService.Memory.newMessage m (store.ids + 1) chat.chat next body)) index) := by
  have hnew : Keyed.get? (Document.ofMessage token number
      (ChatService.Memory.newMessage m (store.ids + 1) chat.chat next body)).id index = none :=
    h.get?_new hlinkage hlink hchat hnext
  have htidy := h.tidy.add (.ofMessage token number
    (ChatService.Memory.newMessage m (store.ids + 1) chat.chat next body))
  refine ⟨htidy.keys, htidy.ids, fun d => ?_⟩
  rw [Memory.add, Keyed.put_eq_append hnew, filed_post hlinkage hlink hchat hnext,
    List.mem_append, h.documents, List.mem_singleton]
  exact or_congr_right ⟨fun heq => (Prod.mk.inj heq).2, fun heq => by rw [heq]⟩

end Growth

/-! ## what a search finds -/

theorem Indexes.mem_documents (h : Indexes store index) :
    d ∈ index.map (·.2) ↔ Filed store d :=
  h.tidy.mem_documents.trans (h.documents d)

theorem messages_ascending (h : Linkage store) (hchat : Keyed.get? record store.chats = some chat) :
    (chat.messages.map (·.2)).Pairwise fun a b => a.number < b.number := by
  have hkeys := List.pairwise_map.mp (h.messages record chat hchat).1
  refine List.pairwise_map.mpr (hkeys.imp_of_mem fun {a b} ha hb hlt => ?_)
  have ha := h.numbers record chat hchat a ha
  have hb := h.numbers record chat hchat b hb
  omega

theorem documentsOf_ascending (h : Linkage store)
    (hchat : Keyed.get? record store.chats = some chat) :
    (documentsOf token number chat).Pairwise fun a b => a.messageNumber < b.messageNumber := by
  have hmessages := List.pairwise_map.mp (messages_ascending h hchat)
  exact List.pairwise_map.mpr hmessages

/-- **A search finds the messages of its chat that contain its text, in their order.** -/
theorem Indexes.hits_eq (h : Indexes store index) (hlinkage : Linkage store) {q : Query}
    (hlink : LinkedAt store q.applicationToken q.chatNumber record)
    (hchat : Keyed.get? record store.chats = some chat) :
    Memory.hits q index =
      (documentsOf q.applicationToken q.chatNumber chat).filter fun d =>
        Text.contains (Text.lower q.text) (Text.lower d.body) := by
  have hascending : (documentsOf q.applicationToken q.chatNumber chat).Pairwise
      fun a b => a.messageNumber < b.messageNumber := documentsOf_ascending hlinkage hchat
  have hnodup : (documentsOf q.applicationToken q.chatNumber chat).Nodup :=
    hascending.imp fun hlt heq => by rw [heq] at hlt; omega
  refine mergeSort_eq_of_perm ?_ (hascending.filter _)
  refine (List.perm_ext_iff_of_nodup (h.tidy.nodup_documents.filter _) (hnodup.filter _)).mpr
    fun d => ?_
  simp only [List.mem_filter, h.mem_documents, Memory.isHit, Bool.and_eq_true, decide_eq_true_eq]
  constructor
  · rintro ⟨⟨record', chat', hlink', hchat', hmem⟩, ⟨htoken, hnumber⟩, hcontains⟩
    rw [htoken, hnumber] at hlink' hmem
    obtain rfl : record' = record := hlink'.unique hlink
    rw [hchat] at hchat'
    cases hchat'
    exact ⟨hmem, hcontains⟩
  · rintro ⟨hmem, hcontains⟩
    obtain ⟨entry, -, rfl⟩ := List.mem_map.mp hmem
    exact ⟨⟨record, chat, hlink, hchat, hmem⟩, ⟨rfl, rfl⟩, hcontains⟩

end ChatService.Search
