import ChatService.Proofs.Memory.Gapless

/-!
# Numbers that never come back, messages that never move

Operations follow one another on the store, successful or not, each at a moment of its own.  Two
things outlive all of them.  The number of a deleted chat lies below the highest number of its
application and has no link, and numbers are only ever given out above: it is never found, listed,
written to or given out again.  And the messages of a chat are only ever added to, at the end and
without a gap, so each stands at the place that its number says until the chat is deleted; from then
on its record is marked, no link leads there, and no operation returns what was in it.
-/

namespace ChatService.Memory

open Store (Application Message Operation Answer CounterUpdate Outcome)

attribute [local irreducible] idText

variable {m : Moment} {s s' : State} {token : String} {number : Int} {record : Nat}

/-! ## later states -/

/-- A state that operations lead to. -/
inductive Later (s : State) : State → Prop where
  | now : Later s s
  | step {s' : State} (h : Later s s') {α : Type} (m : Moment) (operation : Operation α) :
      Later s (perform m operation s').1

/-- A state that operations lead to while a chat is not deleted. -/
inductive LaterWith (token : String) (number : Int) (s : State) : State → Prop where
  | now : LaterWith token number s s
  | step {s' : State} (h : LaterWith token number s s') {α : Type} (m : Moment)
      (operation : Operation α)
      (hspared : (Outcome.of operation (perform m operation s').2).deleted ≠ some (token, number)) :
      LaterWith token number s (perform m operation s').1

theorem LaterWith.later (h : LaterWith token number s s') : Later s s' := by
  induction h with
  | now => exact .now
  | step h m operation hspared ih => exact ih.step m operation

/-- **What every operation keeps, all later states keep.** -/
theorem Later.induct (inv : State → Prop) (h : Later s s') (hinv : inv s)
    (keeps : ∀ {s : State} {α : Type} (m : Moment) (operation : Operation α), inv s →
      inv (perform m operation s).1) : inv s' := by
  induction h with
  | now => exact hinv
  | step h m operation ih => exact keeps m operation ih

/-! ## what holds after any run -/

/-- Ids of chats and of their messages name the record of the chat. -/
def Labelled (s : State) : Prop :=
  ∀ record chat, Keyed.get? record s.chats = some chat →
    chat.chat.id = idText record ∧ ∀ entry ∈ chat.messages, entry.2.chatId = idText record

/-- What holds after every operation, however many there were. -/
structure Orderly (s : State) : Prop where
  linkage : Linkage s
  gapless : Gapless s
  labelled : Labelled s

theorem orderly_empty : Orderly .empty where
  linkage := linkage_empty
  gapless := gapless_empty
  labelled := by simp [Labelled, State.empty, Keyed.get?]

section Effects

variable {α : Type} {operation : Operation α} {result : State × Answer α}

theorem mem_putAscending {ν : Type} {key : Int} {value : ν} {entries : Keyed Int ν}
    {entry : Int × ν} (h : entry ∈ Keyed.putAscending key value entries) :
    entry = (key, value) ∨ entry ∈ entries := by
  induction entries with
  | nil => simpa [Keyed.putAscending] using h
  | cons first rest ih => grind [Keyed.putAscending]

theorem Labelled.effect (h : Labelled s) (heffect : Effect m s operation result) :
    Labelled result.1 := by
  cases heffect with
  | read hread answer => exact h
  | refused e => exact h
  | wasted e => exact h
  | stored hname hfree => exact h
  | linked hfound hnumber hcount =>
      intro record chat hchat
      obtain ⟨rfl, rfl⟩ | hold := chats_link_cases hchat
      · exact ⟨rfl, by simp⟩
      · exact h record chat hold
  | removed hfound hlink hcount =>
      intro record chat hchat
      obtain ⟨before, hbefore, ⟨-, rfl⟩ | ⟨-, rfl⟩⟩ := marked_cases hchat
      · exact ⟨(h record before hbefore).1, by simp [ChatRecord.mark]⟩
      · exact h record chat hbefore
  | posted hbody hlink hchat hlive hnumber hcount =>
      intro record' chat' hchat'
      obtain ⟨rfl, rfl⟩ | ⟨-, hold⟩ := posted_cases hchat hchat'
      · obtain ⟨hid, hmessages⟩ := h _ _ hchat
        refine ⟨hid, fun entry hentry => ?_⟩
        obtain rfl | hold := mem_putAscending hentry
        · exact hid
        · exact hmessages entry hold
      · exact h record' chat' hold

end Effects

theorem Orderly.effect (h : Orderly s) {α : Type} (operation : Operation α) :
    Effect m s operation (perform m operation s) := h.linkage.connected.effect operation

theorem Orderly.next (h : Orderly s) {α : Type} (operation : Operation α) :
    Orderly (perform m operation s).1 where
  linkage := h.linkage.perform operation
  gapless := (h.effect operation).gapless h.gapless
  labelled := h.labelled.effect (h.effect operation)

theorem Later.orderly (h : Later s s') (hs : Orderly s) : Orderly s' :=
  h.induct Orderly hs fun _ operation horderly => horderly.next operation

/-! ## numbers of deleted chats -/

/-- A number of a chat that was given out before and has no link. -/
def Retired (s : State) (token : String) (number : Int) : Prop :=
  ∃ found, Keyed.get? token s.applications = some found ∧
    number ≤ found.application.lastChatNumber ∧ Keyed.get? number found.chats = none

section Steps

variable {token' : String} {number' count : Int} {record' : Nat} {found : ApplicationRecord}
  {application : Application}

theorem Retired.store (h : Retired s token number)
    (hfree : Keyed.get? application.token s.applications = none) :
    Retired (s.store application) token number := by
  obtain ⟨found, hfound, hlast, hnone⟩ := h
  exact ⟨found, get?_applications_store_of_stored hfree hfound, hlast, hnone⟩

theorem Retired.link (h : Retired s token number)
    (hfound' : Keyed.get? token' s.applications = some found)
    (hnext : number' = found.application.lastChatNumber + 1) :
    Retired (s.link m token' application number' count) token number := by
  obtain ⟨found', hfound, hlast, hnone⟩ := h
  unfold Retired
  rw [get?_applications_link]
  split
  · next heq =>
      subst heq
      obtain rfl := Option.some.inj (hfound.symm.trans hfound')
      refine ⟨_, congrArg (Option.map _) hfound, ?_, ?_⟩
      · simp only [ApplicationRecord.addLink]
        omega
      · rw [ApplicationRecord.addLink, Keyed.get?_putAscending, if_neg (by omega), hnone]
  · exact ⟨found', hfound, hlast, hnone⟩

theorem Retired.unlink (h : Retired s token number) :
    Retired (s.unlink m token' number' count) token number := by
  obtain ⟨found, hfound, hlast, hnone⟩ := h
  unfold Retired
  rw [get?_applications_unlink]
  split
  · refine ⟨_, congrArg (Option.map _) hfound, hlast, ?_⟩
    rw [ApplicationRecord.removeLink, Keyed.get?_erase, hnone, ite_self]
  · exact ⟨found, hfound, hlast, hnone⟩

/-- A number that is unlinked is retired. -/
theorem Linkage.retired_unlink (h : Linkage s)
    (hfound : Keyed.get? token s.applications = some found)
    (hlink : Keyed.get? number found.chats = some record) :
    Retired (s.unlink m token number count) token number := by
  refine ⟨found.removeLink m number count, ?_, ?_, ?_⟩
  · rw [get?_applications_unlink, if_pos rfl, hfound, Option.map_some]
  · exact (h.chats token found hfound).2 number
      (Keyed.mem_keys_of_mem (Keyed.mem_of_get?_eq_some hlink))
  · rw [ApplicationRecord.removeLink, Keyed.get?_erase, if_pos rfl]

/-- A marked record stays marked when another one is marked. -/
theorem HasRecord.mark (h : HasRecord s record true) : HasRecord (s.mark record') record true := by
  obtain ⟨chat, hchat, hdeleted⟩ := h
  unfold HasRecord
  rw [get?_chats_mark]
  split
  · exact ⟨_, congrArg (Option.map _) hchat, rfl⟩
  · exact ⟨chat, hchat, hdeleted⟩

end Steps

section Effects

variable {α : Type} {operation : Operation α} {result : State × Answer α}

/-- **No operation brings a number back.** -/
theorem Retired.effect (h : Retired s token number) (heffect : Effect m s operation result) :
    Retired result.1 token number := by
  cases heffect with
  | read hread answer => exact h
  | refused e => exact h
  | wasted e => exact h
  | stored hname hfree => exact h.store hfree
  | linked hfound hnumber hcount => exact h.link hfound (Store.nextAfter_eq_ok hnumber).2
  | removed hfound hlink hcount => exact h.unlink
  | posted hbody hlink hchat hlive hnumber hcount => exact h

/-- A marked record stays marked. -/
theorem HasRecord.effect (h : HasRecord s record true) (hlinkage : Linkage s)
    (heffect : Effect m s operation result) : HasRecord result.1 record true := by
  cases heffect with
  | read hread answer => exact h
  | refused e => exact h
  | wasted e => exact h
  | stored hname hfree => exact h
  | linked hfound hnumber hcount =>
      exact (hlinkage.spares_link hfound (Store.nextAfter_eq_ok hnumber).2).fates record true h
  | removed hfound hlink hcount => exact h.mark
  | posted hbody hlink hchat hlive hnumber hcount => exact spares_post.fates record true h

/-- An operation that deletes a chat does not only read. -/
theorem not_isRead_of_deleted {answer : Answer α}
    (h : (Outcome.of operation answer).deleted = some (token, number)) : ¬IsRead operation := by
  cases operation <;> first | exact id | (cases answer <;> simp [Outcome.deleted] at h)

theorem deleted_error (e : StoreError) :
    (Outcome.of operation (.error e : Answer α)).deleted = none := by
  cases operation <;> rfl

/-- A deletion that succeeds retires the number and marks the record. -/
theorem Effect.deleted (heffect : Effect m s operation result)
    (hdeleted : (Outcome.of operation result.2).deleted = some (token, number))
    (hlinkage : Linkage s) :
    Retired result.1 token number ∧
      ∃ record, LinkedAt s token number record ∧ HasRecord result.1 record true := by
  cases heffect with
  | read hread answer => exact absurd hread (not_isRead_of_deleted hdeleted)
  | refused e | wasted e => simp [deleted_error] at hdeleted
  | stored | linked | posted => simp [Outcome.deleted] at hdeleted
  | @removed token' number' count found record hfound hlink hcount =>
      obtain ⟨rfl, rfl⟩ : token' = token ∧ number' = number := by
        simpa [Outcome.deleted] using hdeleted
      obtain ⟨chat, hchat, -⟩ := hlinkage.live token' number' record ⟨found, hfound, hlink⟩
      refine ⟨hlinkage.retired_unlink hfound hlink, record, ⟨found, hfound, hlink⟩, ?_⟩
      refine ⟨chat.mark, get?_chats_mark.trans ?_, rfl⟩
      rw [if_pos rfl]
      exact congrArg (Option.map _) hchat

/-- A chat number that is given out is the next one of its application. -/
theorem Effect.handedOut_chat (heffect : Effect m s operation result)
    (hnumber : (Outcome.of operation result.2).handedOut = some (.application token, number)) :
    ∃ found, Keyed.get? token s.applications = some found ∧
      number = found.application.lastChatNumber + 1 := by
  cases heffect with
  | read hread answer =>
      cases answer with
      | error e => contradiction
      | ok value => cases operation <;> first | exact hread.elim | contradiction
  | refused e | wasted e => contradiction
  | stored | removed | posted =>
      simp [Outcome.handedOut, Store.numberOf, Except.toOption] at hnumber
  | @linked token' found number' count hfound hnext hcount =>
      obtain ⟨rfl, rfl⟩ : token' = token ∧ number' = number := by
        simpa [Outcome.handedOut, Store.numberOf, Except.toOption, newChat] using hnumber
      exact ⟨found, hfound, (Store.nextAfter_eq_ok hnext).2⟩

end Effects

/-! ## what a retired number answers -/

/-- A chat number that no operation finds, lists, writes to or gives out. -/
structure Gone (s : State) (token : String) (number : Int) : Prop where
  notFound : ∀ m, (perform m (.findChat token number) s).2 = .error (.chatNotFound token number)
  notCounted : ∀ m,
    (perform m (.countMessages token number) s).2 = .error (.chatNotFound token number)
  notRead : ∀ m offset limit,
    (perform m (.listMessages token number offset limit) s).2 = .error (.chatNotFound token number)
  notListed : ∀ m offset limit chats, (perform m (.listChats token offset limit) s).2 = .ok chats →
    ∀ chat ∈ chats, chat.number ≠ number
  notWritten : ∀ m body message,
    (perform m (.createMessage token number body) s).2 ≠ .ok message
  notDeleted : ∀ m, (perform m (.deleteChat token number) s).2 ≠ .ok ()
  notReused : ∀ m chat, (perform m (.createChat token) s).2 = .ok chat → chat.number ≠ number

theorem Retired.not_linked (h : Retired s token number) : ¬LinkedAt s token number record := by
  rintro ⟨found, hfound, hlink⟩
  obtain ⟨found', hfound', -, hnone⟩ := h
  obtain rfl := Option.some.inj (hfound.symm.trans hfound')
  rw [hnone] at hlink
  cases hlink

theorem Retired.lookupChat_eq (h : Retired s token number) :
    s.lookupChat token number = .error (.chatNotFound token number) := by
  obtain ⟨found, hfound, -, hnone⟩ := h
  simp [State.lookupChat, lookupApplication_eq_ok.mpr hfound, hnone]

theorem Retired.gone (h : Retired s token number) (horderly : Orderly s) : Gone s token number where
  notFound m := by rw [horderly.linkage.connected.perform_findChat, h.lookupChat_eq]; rfl
  notCounted m := by rw [horderly.linkage.connected.perform_countMessages, h.lookupChat_eq]; rfl
  notRead m offset limit := by
    rw [horderly.linkage.connected.perform_listMessages, h.lookupChat_eq]; rfl
  notListed m offset limit chats hchats chat hmem hnumber := by
    rw [horderly.linkage.perform_listChats] at hchats
    cases hlookup : s.lookupApplication token with
    | error e => rw [hlookup] at hchats; cases hchats
    | ok found =>
        rw [hlookup] at hchats
        cases hchats
        obtain ⟨number', record, entry, hlink, hentry, rfl⟩ :=
          (horderly.linkage.mem_chatsOf_iff (lookupApplication_eq_ok.mp hlookup)).mp
            (List.mem_of_mem_drop (List.mem_of_mem_take hmem))
        obtain ⟨entry', hentry', -, hnumber'⟩ := horderly.linkage.live _ _ _ hlink
        obtain rfl := Option.some.inj (hentry.symm.trans hentry')
        exact h.not_linked ((hnumber'.symm.trans hnumber) ▸ hlink)
  notWritten m body message hmessage := by
    have hposts := horderly.linkage.connected.posts_createMessage (m := m) token number body
    generalize perform m (.createMessage token number body) s = result at hposts hmessage
    cases hposts with
    | nothing e | waste e => cases hmessage
    | message hlink => exact h.not_linked hlink
  notDeleted m hdeleted := by
    obtain ⟨-, record, hlink, -⟩ := (horderly.effect (m := m) (.deleteChat token number)).deleted
      (by rw [hdeleted]; rfl) horderly.linkage
    exact h.not_linked hlink
  notReused m chat hchat hnumber := by
    obtain ⟨found, hfound, hnext⟩ := (horderly.effect (m := m) (.createChat token)).handedOut_chat
      (by rw [hchat]; rfl)
    obtain ⟨found', hfound', hlast, -⟩ := h
    obtain rfl := Option.some.inj (hfound.symm.trans hfound')
    omega

/-! ## messages of a chat that stays -/

/-- A chat whose messages begin with these ones. -/
def Holds (s : State) (token : String) (number : Int) (messages : List Message) : Prop :=
  ∃ record chat, LinkedAt s token number record ∧ Keyed.get? record s.chats = some chat ∧
    messages <+: chat.messages.map (·.2)

/-- A message that is added goes to the end. -/
theorem Linkage.get?_chats_posted {chat : ChatRecord} {next count : Int} {body : String}
    (h : Linkage s) (hchat : Keyed.get? record s.chats = some chat)
    (hnumber : Store.nextAfter chat.chat.lastMessageNumber = .ok next) :
    ∃ chat', Keyed.get? record (s.post m record chat.chat next count body).chats = some chat' ∧
      chat'.messages = chat.messages ++ [(next, newMessage m (s.ids + 1) chat.chat next body)] := by
  obtain ⟨-, rfl⟩ := Store.nextAfter_eq_ok hnumber
  refine ⟨chat.addMessage m _ count (newMessage m (s.ids + 1) chat.chat _ body),
    get?_chats_post.trans ?_, (h.messages record chat hchat).putAscending_eq⟩
  rw [if_pos rfl, hchat, Option.map_some]

section Effects

variable {α : Type} {operation : Operation α} {result : State × Answer α} {messages : List Message}

/-- **No operation moves a message** of a chat that it does not delete. -/
theorem Holds.effect (h : Holds s token number messages) (hlinkage : Linkage s)
    (heffect : Effect m s operation result)
    (hspared : (Outcome.of operation result.2).deleted ≠ some (token, number)) :
    Holds result.1 token number messages := by
  obtain ⟨record, chat, hlink, hchat, hbegins⟩ := h
  cases heffect with
  | read hread answer => exact ⟨record, chat, hlink, hchat, hbegins⟩
  | refused e => exact ⟨record, chat, hlink, hchat, hbegins⟩
  | wasted e => exact ⟨record, chat, hlink, hchat, hbegins⟩
  | stored hname hfree => exact ⟨record, chat, (linkedAt_store hfree).mpr hlink, hchat, hbegins⟩
  | linked hfound hnumber hcount =>
      have hgiven := hlinkage.le_ids hlink
      have hnext := (Store.nextAfter_eq_ok hnumber).2
      refine ⟨record, chat, ((hlinkage.spares_link hfound hnext).links _ _ _ hgiven).mpr hlink, ?_,
        hbegins⟩
      rw [get?_chats_link, if_neg (by omega), hchat]
  | @removed token' number' count found record' hfound hlink' hcount =>
      have hother : ¬(token = token' ∧ number = number') := by
        rintro ⟨rfl, rfl⟩
        exact hspared rfl
      refine ⟨record, chat, linkedAt_mark.mpr ((linkedAt_unlink hfound).mpr ⟨hlink, hother⟩), ?_,
        hbegins⟩
      have hne : record' ≠ record := by
        rintro rfl
        exact hother (hlinkage.once _ _ _ _ _ hlink ⟨found, hfound, hlink'⟩)
      rw [get?_chats_mark, if_neg hne]
      exact hchat
  | @posted token' number' next count given body record' chat' hbody hlink' hchat' hlive hnumber
      hcount =>
      by_cases hsame : record' = record
      · subst hsame
        obtain rfl := Option.some.inj (hchat.symm.trans hchat')
        obtain ⟨chat', hchat', hmessages⟩ := hlinkage.get?_chats_posted hchat hnumber
        refine ⟨record', chat', linkedAt_post.mpr hlink, hchat', ?_⟩
        rw [hmessages, List.map_append]
        exact hbegins.trans (List.prefix_append _ _)
      · refine ⟨record, chat, linkedAt_post.mpr hlink, ?_, hbegins⟩
        rw [get?_chats_post, if_neg hsame, hchat]

end Effects

theorem LaterWith.holds {messages : List Message} (h : LaterWith token number s s')
    (horderly : Orderly s) (hholds : Holds s token number messages) :
    Holds s' token number messages := by
  induction h with
  | now => exact hholds
  | step h m operation hspared ih =>
      have hlater := h.later.orderly horderly
      exact ih.effect hlater.linkage (hlater.effect operation) hspared

/-! ### how they are listed -/

theorem Holds.listMessages {messages : List Message} (h : Holds s token number messages)
    (horderly : Orderly s) :
    ∃ more, ∀ m offset limit, (perform m (.listMessages token number offset limit) s).2 =
      .ok (Page.slice offset limit (messages ++ more)) := by
  obtain ⟨record, chat, hlink, hchat, more, hmore⟩ := h
  refine ⟨more, fun m offset limit => ?_⟩
  have hat : s.chatAt record = chat := by rw [State.chatAt, hchat, Option.getD_some]
  rw [horderly.linkage.connected.perform_listMessages, lookupChat_eq_ok.mpr hlink, hmore, ← hat]
  rfl

theorem getElem?_slice {γ : Type} {xs : List γ} {offset limit i : Nat} (hi : i < limit) :
    (Page.slice offset limit xs)[i]? = xs[offset + i]? := by
  rw [Page.slice, List.getElem?_take_of_lt hi, List.getElem?_drop]

/-- A page that is full stays as it is when more items follow. -/
theorem slice_append_of_full {γ : Type} {xs more : List γ} {offset limit : Nat}
    (hfull : (Page.slice offset limit xs).length = limit) :
    Page.slice offset limit (xs ++ more) = Page.slice offset limit xs := by
  have hroom : limit ≤ xs.length - offset := by
    rw [Page.slice, List.length_take, List.length_drop] at hfull
    omega
  obtain hwithin | hpast := Nat.le_total offset xs.length
  · rw [Page.slice, Page.slice, List.drop_append_of_le_length hwithin,
      List.take_append_of_le_length (by rwa [List.length_drop])]
  · obtain rfl : limit = 0 := by omega
    rfl

/-- A message that every listing of its chat has at the place that its number says. -/
def InPlace (s : State) (token : String) (number : Int) (message : Message) : Prop :=
  ∀ m offset limit, offset ≤ (message.number - 1).toNat →
    (message.number - 1).toNat < offset + limit →
    ∃ page, (perform m (.listMessages token number offset limit) s).2 = .ok page ∧
      page[(message.number - 1).toNat - offset]? = some message

theorem Holds.inPlace {before : List Message} {message : Message}
    (h : Holds s token number (before ++ [message])) (horderly : Orderly s)
    (hplace : before.length = (message.number - 1).toNat) : InPlace s token number message := by
  intro m offset limit hfrom hto
  obtain ⟨more, hlisted⟩ := h.listMessages horderly
  refine ⟨_, hlisted m offset limit, ?_⟩
  have hindex : offset + ((message.number - 1).toNat - offset) = before.length := by omega
  rw [getElem?_slice (by omega), hindex, List.append_assoc,
    List.getElem?_append_right (Nat.le_refl _), Nat.sub_self]
  rfl

/-- What the creation of a message leaves: the message at its place. -/
theorem Orderly.holds_of_created {given : Option String} {message : Message} (h : Orderly s)
    (hcreated : (Memory.perform m (.createMessage token number given) s).2 = .ok message) :
    ∃ before, Holds (Memory.perform m (.createMessage token number given) s).1 token number
        (before ++ [message]) ∧ before.length = (message.number - 1).toNat := by
  have hposts := h.linkage.connected.posts_createMessage (m := m) token number given
  generalize Memory.perform m (.createMessage token number given) s = result at hposts hcreated
  cases hposts with
  | nothing e | waste e => cases hcreated
  | @message record chat next count body hlink hchat hnumber hcount =>
      cases hcreated
      obtain ⟨chat', hchat', hlive, -⟩ := h.linkage.live _ _ _ hlink
      obtain rfl := Option.some.inj (hchat.symm.trans hchat')
      obtain ⟨chat', hchat', hmessages⟩ := h.linkage.get?_chats_posted hchat hnumber
      have hlast := (Store.nextAfter_eq_ok hnumber).2
      refine ⟨chat.messages.map (·.2), ⟨record, chat', linkedAt_post.mpr hlink, hchat', ?_⟩, ?_⟩
      · rw [hmessages, List.map_append]
        exact List.prefix_rfl
      · rw [List.length_map, (h.gapless.messages record chat hchat).length_eq hlive]
        show _ = (next - 1).toNat
        omega

/-! ## messages of a chat that is deleted -/

/-- The messages that an operation returns. -/
def messagesIn : {α : Type} → Operation α → α → List Message
  | _, .createMessage .., message => [message]
  | _, .listMessages .., messages => messages
  | _, _, _ => []

/-- Whatever is returned belongs to a chat that is linked. -/
theorem Orderly.chatId_of_returned {α : Type} {operation : Operation α} {value : α}
    {message : Message} (h : Orderly s)
    (hvalue : (Memory.perform m operation s).2 = .ok value)
    (hmem : message ∈ messagesIn operation value) :
    ∃ token number record, LinkedAt s token number record ∧ message.chatId = idText record := by
  cases operation with
  | createMessage token number given =>
      have hposts := h.linkage.connected.posts_createMessage (m := m) token number given
      generalize Memory.perform m (.createMessage token number given) s = result at hposts hvalue
      cases hposts with
      | nothing e | waste e => cases hvalue
      | @message record chat next count body hlink hchat hnumber hcount =>
          cases hvalue
          obtain rfl := List.mem_singleton.mp hmem
          exact ⟨token, number, record, hlink, (h.labelled record chat hchat).1⟩
  | listMessages token number offset limit =>
      rw [h.linkage.connected.perform_listMessages] at hvalue
      cases hrecord : s.lookupChat token number with
      | error e => rw [hrecord] at hvalue; cases hvalue
      | ok record =>
          rw [hrecord] at hvalue
          cases hvalue
          obtain ⟨entry, hentry, rfl⟩ :=
            List.mem_map.mp (List.mem_of_mem_drop (List.mem_of_mem_take hmem))
          have hchat := (h.linkage.connected token number record hrecord).1
          exact ⟨token, number, record, lookupChat_eq_ok.mp hrecord,
            (h.labelled record _ hchat).2 entry hentry⟩
  | createApplication | createChat | deleteChat | countApplications | listApplications
  | findApplication | findChat | countChats | listChats | countMessages | ping =>
      exact absurd hmem List.not_mem_nil

/-- A message that no operation returns. -/
def Forgotten (s : State) (message : Message) : Prop :=
  ∀ (m : Moment) {α : Type} (operation : Operation α) (value : α),
    (perform m operation s).2 = .ok value → message ∉ messagesIn operation value

/-- A message of a marked record is not returned, as long as ids do not repeat. -/
theorem Orderly.forgotten {message : Message} (h : Orderly s) (hfew : s.ids < 16 ^ 24)
    (hmarked : HasRecord s record true) (hid : message.chatId = idText record) :
    Forgotten s message := by
  intro m α operation value hvalue hmem
  obtain ⟨token, number, record', hlink, hid'⟩ := h.chatId_of_returned hvalue hmem
  obtain ⟨chat, hchat, hdeleted⟩ := hmarked
  have hgiven := h.linkage.given record chat hchat
  have hgiven' := h.linkage.le_ids hlink
  obtain rfl : record = record' :=
    (idText_inj (by omega) (by omega)).mp (hid.symm.trans hid')
  obtain ⟨chat', hchat', hlive, -⟩ := h.linkage.live token number record hlink
  obtain rfl := Option.some.inj (hchat.symm.trans hchat')
  rw [hlive] at hdeleted
  cases hdeleted

/-! ## for good -/

/-- What a state settles for all states after it. -/
structure Permanent (s : State) : Prop where
  /-- The number of a chat that is deleted now is gone from then on. -/
  numbers : ∀ m token number s', (perform m (.deleteChat token number) s).2 = .ok () →
    Later (perform m (.deleteChat token number) s).1 s' → Gone s' token number
  /-- A message that is created now keeps its place until its chat is deleted. -/
  places : ∀ m token number given message s',
    (perform m (.createMessage token number given) s).2 = .ok message →
    LaterWith token number (perform m (.createMessage token number given) s).1 s' →
    InPlace s' token number message
  /-- A page that is full now is the same page until its chat is deleted. -/
  pages : ∀ m token number offset limit page m' s',
    (perform m (.listMessages token number offset limit) s).2 = .ok page → page.length = limit →
    LaterWith token number s s' →
    (perform m' (.listMessages token number offset limit) s').2 = .ok page
  /-- A message that is created now is never returned once its chat was deleted. -/
  deletions : ∀ m token number given message s₁ m' s₂,
    (perform m (.createMessage token number given) s).2 = .ok message →
    LaterWith token number (perform m (.createMessage token number given) s).1 s₁ →
    (perform m' (.deleteChat token number) s₁).2 = .ok () →
    Later (perform m' (.deleteChat token number) s₁).1 s₂ → s₂.ids < 16 ^ 24 →
    Forgotten s₂ message

theorem Orderly.numbers (h : Orderly s)
    (hdeleted : (Memory.perform m (.deleteChat token number) s).2 = .ok ())
    (hlater : Later (Memory.perform m (.deleteChat token number) s).1 s') :
    Gone s' token number := by
  have hnext : Orderly (Memory.perform m (.deleteChat token number) s).1 := h.next _
  have hretired : Retired (Memory.perform m (.deleteChat token number) s).1 token number :=
    ((h.effect (.deleteChat token number)).deleted (by rw [hdeleted]; rfl) h.linkage).1
  obtain ⟨horderly, hretired⟩ := hlater.induct (fun s => Orderly s ∧ Retired s token number)
    ⟨hnext, hretired⟩ fun _ operation ⟨horderly, hretired⟩ =>
      ⟨horderly.next operation, hretired.effect (horderly.effect operation)⟩
  exact hretired.gone horderly

theorem Orderly.pages {offset limit : Nat} {page : List Message} {m' : Moment} (h : Orderly s)
    (hpage : (Memory.perform m (.listMessages token number offset limit) s).2 = .ok page)
    (hfull : page.length = limit) (hlater : LaterWith token number s s') :
    (Memory.perform m' (.listMessages token number offset limit) s').2 = .ok page := by
  rw [h.linkage.connected.perform_listMessages] at hpage
  cases hrecord : s.lookupChat token number with
  | error e => rw [hrecord] at hpage; cases hpage
  | ok record =>
      rw [hrecord] at hpage
      cases hpage
      have hholds : Holds s token number ((s.chatAt record).messages.map (·.2)) :=
        ⟨record, _, lookupChat_eq_ok.mp hrecord,
          (h.linkage.connected token number record hrecord).1, List.prefix_rfl⟩
      obtain ⟨more, hlisted⟩ :=
        (hlater.holds h hholds).listMessages (hlater.later.orderly h)
      rw [hlisted, slice_append_of_full hfull]

theorem Orderly.deletions {given : Option String} {message : Message} {s₁ s₂ : State}
    {m' : Moment} (h : Orderly s)
    (hcreated : (Memory.perform m (.createMessage token number given) s).2 = .ok message)
    (hkept : LaterWith token number (Memory.perform m (.createMessage token number given) s).1 s₁)
    (hdeleted : (Memory.perform m' (.deleteChat token number) s₁).2 = .ok ())
    (hlater : Later (Memory.perform m' (.deleteChat token number) s₁).1 s₂)
    (hfew : s₂.ids < 16 ^ 24) : Forgotten s₂ message := by
  have hnext : Orderly (Memory.perform m (.createMessage token number given) s).1 := h.next _
  have horderly₁ : Orderly s₁ := hkept.later.orderly hnext
  obtain ⟨before, hholds, -⟩ := h.holds_of_created hcreated
  -- the record that the message is in when its chat is deleted
  obtain ⟨record, chat, hlink, hchat, hbegins⟩ := hkept.holds hnext hholds
  obtain ⟨entry, hentry, hvalue⟩ :=
    List.mem_map.mp (hbegins.subset (List.mem_append_right before List.mem_cons_self))
  have hid : message.chatId = idText record :=
    hvalue ▸ (horderly₁.labelled record chat hchat).2 entry hentry
  obtain ⟨-, record', hlink', hmarked⟩ :=
    (horderly₁.effect (m := m') (.deleteChat token number)).deleted (by rw [hdeleted]; rfl)
      horderly₁.linkage
  obtain rfl := hlink.unique hlink'
  obtain ⟨horderly₂, hmarked₂⟩ := hlater.induct (fun s => Orderly s ∧ HasRecord s record true)
    ⟨horderly₁.next _, hmarked⟩ fun _ operation ⟨horderly, hmarked⟩ =>
      ⟨horderly.next operation, hmarked.effect horderly.linkage (horderly.effect operation)⟩
  exact horderly₂.forgotten hfew hmarked₂ hid

/-- **Numbers never come back and messages never move**, whatever operations ran before and whatever
operations follow. -/
theorem Later.permanent (h : Later .empty s) : Permanent s where
  numbers m token number s' hdeleted hlater := (h.orderly orderly_empty).numbers hdeleted hlater
  places m token number given message s' hcreated hkept := by
    have horderly := h.orderly orderly_empty
    obtain ⟨before, hholds, hplace⟩ := horderly.holds_of_created hcreated
    have hnext := horderly.next (m := m) (.createMessage token number given)
    exact (hkept.holds hnext hholds).inPlace (hkept.later.orderly hnext) hplace
  pages m token number offset limit page m' s' hpage hfull hkept :=
    (h.orderly orderly_empty).pages hpage hfull hkept
  deletions m token number given message s₁ m' s₂ hcreated hkept hdeleted hlater hfew :=
    (h.orderly orderly_empty).deletions hcreated hkept hdeleted hlater hfew

/-- A moment at which token `t` is drawn. -/
def dawn : Moment := ⟨.epoch, "t"⟩

/-- An application with an empty chat. -/
def furnished : State :=
  (perform dawn (.createChat "t") (perform dawn (.createApplication (some "a")) .empty).1).1

/-- The first message of the chat. -/
def greeting : Message := ⟨idText 3, idText 2, 1, "Hello", .epoch, .epoch⟩

/-- The chat with its first message. -/
def greeted : State := (perform dawn (.createMessage "t" 1 (some "Hello")) furnished).1

/-- The store after the chat was deleted and another one created. -/
def replaced : State :=
  (perform dawn (.createChat "t") (perform dawn (.deleteChat "t" 1) greeted).1).1

/-- The message keeps its place while another one follows it; once the chat is deleted, its number
is gone and the message forgotten, also after the next chat was created. -/
theorem greeting_permanent :
    Later .empty furnished ∧
      InPlace (perform dawn (.createMessage "t" 1 (some "Bye")) greeted).1 "t" 1 greeting ∧
      (perform dawn (.listMessages "t" 1 0 1)
        (perform dawn (.createMessage "t" 1 (some "Bye")) greeted).1).2 = .ok [greeting] ∧
      Gone replaced "t" 1 ∧ Forgotten replaced greeting := by
  have hfurnished : Later .empty furnished := (Later.now.step dawn _).step dawn _
  have hcreated :
      (perform dawn (.createMessage "t" 1 (some "Hello")) furnished).2 = .ok greeting := by rfl
  have hgreeted : Later .empty greeted := hfurnished.step dawn _
  have hdeleted : (perform dawn (.deleteChat "t" 1) greeted).2 = .ok () := by rfl
  have hreplaced : Later (perform dawn (.deleteChat "t" 1) greeted).1 replaced :=
    Later.now.step dawn _
  have hfollowed : LaterWith "t" 1 greeted
      (perform dawn (.createMessage "t" 1 (some "Bye")) greeted).1 :=
    LaterWith.now.step dawn _ (by simp [Outcome.deleted])
  have hserved : (perform dawn (.listMessages "t" 1 0 1) greeted).2 = .ok [greeting] := by rfl
  refine ⟨hfurnished, ?_, ?_, ?_, ?_⟩
  · exact hfurnished.permanent.places dawn "t" 1 (some "Hello") greeting _ hcreated hfollowed
  · exact hgreeted.permanent.pages dawn "t" 1 0 1 [greeting] dawn _ hserved rfl hfollowed
  · exact hgreeted.permanent.numbers dawn "t" 1 replaced hdeleted hreplaced
  · exact hfurnished.permanent.deletions dawn "t" 1 (some "Hello") greeting greeted dawn replaced
      hcreated .now hdeleted hreplaced (by decide)

end ChatService.Memory
