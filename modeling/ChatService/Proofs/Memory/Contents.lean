import ChatService.Proofs.Memory.Linkage

/-!
# What clients can see of the in-memory store

Clients see names, counts, numbers and bodies.  They do not see in which record a chat is kept, what
its internal id is, or when it was changed; nor records that have lost their link.  What is left is
the contents of the store, and what an operation does to the contents and answers from them can be
said without records and sections.
-/

namespace ChatService

namespace Memory

open Store (Application Message Operation Answer CounterUpdate Outcome)

/-! ## contents -/

/-- A chat with its messages by number, as clients see them. -/
structure ChatContents where
  chat : Store.Chat
  messages : Keyed Int Message

/-- An application with its chats by number, as clients see them. -/
structure ApplicationContents where
  application : Application
  chats : Keyed Int ChatContents

/-- The applications by token, as clients see them. -/
abbrev Contents : Type := Keyed String ApplicationContents

def ChatRecord.contents (record : ChatRecord) : ChatContents :=
  ⟨record.chat.bare, Keyed.mapValues Message.bare record.messages⟩

/-- What clients see of an application whose links lead to some records. -/
def ApplicationRecord.contents (found : ApplicationRecord) (chatAt : Nat → ChatRecord) :
    ApplicationContents :=
  ⟨found.application.bare, Keyed.mapValues (fun record => (chatAt record).contents) found.chats⟩

/-- What clients see. -/
def State.contents (s : State) : Contents :=
  Keyed.mapValues (·.contents s.chatAt) s.applications

/-! ## operations on contents -/

namespace ChatContents

/-- A message is created. -/
def post (body : String) (found : ChatContents) : ChatContents × Answer Message :=
  let allocated : Answer (Int × Int) := do
    let number ← Store.nextAfter found.chat.lastMessageNumber
    let count ← (CounterUpdate.increment .messages).apply found.chat.messagesCount
    pure (number, count)
  match allocated with
  | .error e => (found, .error e)
  | .ok (number, count) =>
    let message : Message := ⟨"", "", number, body, .epoch, .epoch⟩
    (⟨{ found.chat with lastMessageNumber := number, messagesCount := count },
      Keyed.putAscending number message found.messages⟩, .ok message)

end ChatContents

namespace ApplicationContents

/-- An application with one more chat. -/
def addChat (number count : Int) (found : ApplicationContents) : ApplicationContents :=
  { application := { found.application with lastChatNumber := number, chatsCount := count }
    chats := Keyed.putAscending number ⟨⟨"", "", number, 0, 0, .epoch, .epoch⟩, []⟩ found.chats }

/-- An application without one of its chats. -/
def removeChat (number count : Int) (found : ApplicationContents) : ApplicationContents :=
  { application := { found.application with chatsCount := count }
    chats := Keyed.erase number found.chats }

/-- A chat is created. -/
def createChat (found : ApplicationContents) : ApplicationContents × Answer Store.Chat :=
  let allocated : Answer (Int × Int) := do
    let number ← Store.nextAfter found.application.lastChatNumber
    let count ← (CounterUpdate.increment .chats).apply found.application.chatsCount
    pure (number, count)
  match allocated with
  | .error e => (found, .error e)
  | .ok (number, count) =>
    (found.addChat number count, .ok ⟨"", "", number, 0, 0, .epoch, .epoch⟩)

/-- A chat is deleted. -/
def deleteChat (token : String) (number : Int) (found : ApplicationContents) :
    ApplicationContents × Answer Unit :=
  match Keyed.get? number found.chats with
  | none => (found, .error (.chatNotFound token number))
  | some _ =>
    match (CounterUpdate.decrement .chats).apply found.application.chatsCount with
    | .error e => (found, .error e)
    | .ok count => (found.removeChat number count, .ok ())

end ApplicationContents

namespace Contents

variable {α : Type}

/-- An application is looked up and changed. -/
def withApplication (token : String)
    (body : ApplicationContents → ApplicationContents × Answer α) (c : Contents) :
    Contents × Answer α :=
  match Keyed.get? token c with
  | none => (c, .error (.applicationNotFound token))
  | some found => (Keyed.update token (fun _ => (body found).1) c, (body found).2)

/-- A chat is looked up and changed. -/
def withChat (token : String) (number : Int)
    (body : ChatContents → ChatContents × Answer α) : Contents → Contents × Answer α :=
  withApplication token fun found =>
    match Keyed.get? number found.chats with
    | none => (found, .error (.chatNotFound token number))
    | some chat =>
      ({ found with chats := Keyed.update number (fun _ => (body chat).1) found.chats },
        (body chat).2)

/-- What an operation does to the contents and answers, with the token that a new application gets;
not for listings of applications and of chats, which take several looks. -/
def perform (token : String) : {α : Type} → Operation α → Contents → Option (Contents × Answer α)
  | _, .createApplication name, c =>
    some <|
      match Store.validateName name with
      | .error e => (c, .error e)
      | .ok name =>
        match Keyed.get? token c with
        | some _ => (c, .error (.constraintViolation "token already taken"))
        | none =>
          let application : Application := ⟨"", token, name, 0, 0, .epoch, .epoch⟩
          (Keyed.put token ⟨application, []⟩ c, .ok application)
  | _, .countApplications, c => some (c, .ok c.length)
  | _, .findApplication token, c =>
    some (c.withApplication token fun found => (found, .ok found.application))
  | _, .createChat token, c => some (c.withApplication token ApplicationContents.createChat)
  | _, .findChat token number, c =>
    some (c.withChat token number fun found => (found, .ok found.chat))
  | _, .countChats token, c =>
    some (c.withApplication token fun found => (found, .ok found.chats.length))
  | _, .deleteChat token number, c =>
    some (c.withApplication token (ApplicationContents.deleteChat token number))
  | _, .createMessage token number body, c =>
    some <|
      match Store.validateBody body with
      | .error e => (c, .error e)
      | .ok body => c.withChat token number (ChatContents.post body)
  | _, .countMessages token number, c =>
    some (c.withChat token number fun found => (found, .ok found.messages.length))
  | _, .listMessages token number offset limit, c =>
    some (c.withChat token number fun found =>
      (found, .ok (Page.slice offset limit (found.messages.map (·.2)))))
  | _, .ping, c => some (c, .ok ())
  | _, .listApplications .., _ | _, .listChats .., _ => none

end Contents

/-! ## one chat of the contents -/

section Chat

variable {α : Type} {c c' : Contents} {fresh token : String} {number : Int}
  {found : ApplicationContents} {chat : ChatContents}

namespace Contents

/-- A chat that clients can see. -/
def chat? (c : Contents) (token : String) (number : Int) : Option ChatContents :=
  (Keyed.get? token c).bind fun found => Keyed.get? number found.chats

/-- The contents with another chat in the place of one that is there. -/
def setChat (c : Contents) (token : String) (number : Int) (chat : ChatContents) : Contents :=
  match Keyed.get? token c with
  | none => c
  | some found =>
    Keyed.update token
      (fun _ => { found with chats := Keyed.update number (fun _ => chat) found.chats }) c

theorem withApplication_of_none {body : ApplicationContents → ApplicationContents × Answer α}
    (h : Keyed.get? token c = none) :
    c.withApplication token body = (c, .error (.applicationNotFound token)) := by
  rw [withApplication, h]

theorem withApplication_of_some {body : ApplicationContents → ApplicationContents × Answer α}
    (h : Keyed.get? token c = some found) :
    c.withApplication token body =
      (Keyed.update token (fun _ => (body found).1) c, (body found).2) := by
  rw [withApplication, h]

theorem withChat_of_some {body : ChatContents → ChatContents × Answer α}
    (h : c.chat? token number = some chat) :
    c.withChat token number body = (c.setChat token number (body chat).1, (body chat).2) := by
  obtain ⟨found, hfound, hchat⟩ := Option.bind_eq_some_iff.mp h
  rw [withChat, withApplication_of_some hfound, setChat, hfound]
  simp only [hchat]

theorem withChat_of_none {body : ChatContents → ChatContents × Answer α}
    (hnodup : (Keyed.keys c).Nodup) (hfound : Keyed.get? token c = some found)
    (hchat : Keyed.get? number found.chats = none) :
    c.withChat token number body = (c, .error (.chatNotFound token number)) := by
  rw [withChat, withApplication_of_some hfound]
  simp only [hchat]
  rw [Keyed.update_of_get? hnodup hfound]

theorem chat?_setChat (h : c.chat? token number = some chat) (chat' : ChatContents) :
    (c.setChat token number chat').chat? token number = some chat' := by
  obtain ⟨found, hfound, hchat⟩ := Option.bind_eq_some_iff.mp h
  simp [chat?, setChat, hfound, Keyed.get?_update, hchat]

end Contents

/-- An outcome is what its operation answers on some contents, up to internal ids and timestamps,
and what the operation makes of them. -/
def Does (fresh : String) (c : Contents) : Outcome → Contents → Prop
  | .of operation answer, c' =>
    c.perform fresh operation = some (c', answer.map (Store.bare operation))

/-- **The deletion of a chat undoes what was last done to the chat.** -/
theorem Does.deleteChat_setChat (hchat : c.chat? token number = some chat)
    (h : Does fresh c (.of (.deleteChat token number) (.ok ())) c') (chat' : ChatContents) :
    Does fresh (c.setChat token number chat') (.of (.deleteChat token number) (.ok ())) c' := by
  obtain ⟨found, hfound, hget⟩ := Option.bind_eq_some_iff.mp hchat
  have hset : Keyed.get? token (c.setChat token number chat') =
      some { found with chats := Keyed.update number (fun _ => chat') found.chats } := by
    simp [Contents.setChat, hfound, Keyed.get?_update]
  have hget' :
      Keyed.get? number (Keyed.update number (fun _ => chat') found.chats) = some chat' := by
    simp [Keyed.get?_update, hget]
  have h : some (c.withApplication token (ApplicationContents.deleteChat token number)) =
      some (c', .ok ()) := h
  show some ((c.setChat token number chat').withApplication token
    (ApplicationContents.deleteChat token number)) = some (c', .ok ())
  rw [Contents.withApplication_of_some hfound] at h
  rw [Contents.withApplication_of_some hset]
  simp only [ApplicationContents.deleteChat, hget, hget'] at h ⊢
  cases hcount : (CounterUpdate.decrement .chats).apply found.application.chatsCount with
  | error e => simp [hcount] at h
  | ok count =>
      simp only [hcount] at h ⊢
      rw [← h, Contents.setChat, hfound]
      simp only [ApplicationContents.removeChat, Keyed.update_update, Keyed.erase_update]

end Chat

/-! ## contents after a move -/

attribute [local irreducible] idText

variable {m : Moment} {s s' : State} {token : String} {number count : Int} {record : Nat}
  {found : ApplicationRecord} {chat : ChatRecord}

theorem get?_contents :
    Keyed.get? token s.contents = (Keyed.get? token s.applications).map (·.contents s.chatAt) :=
  Keyed.get?_mapValues

theorem get?_contents_of_some (hfound : Keyed.get? token s.applications = some found) :
    Keyed.get? token s.contents = some (found.contents s.chatAt) := by
  rw [get?_contents, hfound]
  rfl

theorem keys_contents : Keyed.keys s.contents = Keyed.keys s.applications := Keyed.keys_mapValues

theorem get?_contents_chats :
    Keyed.get? number (found.contents s.chatAt).chats =
      (Keyed.get? number found.chats).map fun record => (s.chatAt record).contents := by
  show Keyed.get? number
    (Keyed.mapValues (fun record => (s.chatAt record).contents) found.chats) = _
  exact Keyed.get?_mapValues

theorem Linkage.chatAt_eq (h : Linkage s) (hlink : LinkedAt s token number record) :
    Keyed.get? record s.chats = some (s.chatAt record) := by
  obtain ⟨chat, hchat, -⟩ := h.live token number record hlink
  rw [State.chatAt, hchat, Option.getD_some]

theorem chat?_contents_of_link (hlink : LinkedAt s token number record) :
    s.contents.chat? token number = some (s.chatAt record).contents := by
  obtain ⟨found, hfound, hlink⟩ := hlink
  simp [Contents.chat?, get?_contents, hfound, get?_contents_chats, hlink]

theorem chat?_contents_of_none (hnone : ∀ record, ¬LinkedAt s token number record) :
    s.contents.chat? token number = none := by
  unfold Contents.chat?
  rw [get?_contents]
  cases hfound : Keyed.get? token s.applications with
  | none => rfl
  | some found =>
      cases hlink : Keyed.get? number found.chats with
      | none => simp [get?_contents_chats, hlink]
      | some record => exact absurd ⟨found, hfound, hlink⟩ (hnone record)

/-- Applications whose links lead to the same chats look the same. -/
theorem contents_congr {chatAt chatAt' : Nat → ChatRecord}
    (h : ∀ link ∈ found.chats, (chatAt link.2).contents = (chatAt' link.2).contents) :
    found.contents chatAt = found.contents chatAt' := by
  have hchats : Keyed.mapValues (fun record => (chatAt record).contents) found.chats =
      Keyed.mapValues (fun record => (chatAt' record).contents) found.chats :=
    Keyed.mapValues_congr h
  unfold ApplicationRecord.contents
  rw [hchats]

theorem Linkage.linkedAt_of_mem (h : Linkage s) (hfound : (token, found) ∈ s.applications)
    (hlink : (number, record) ∈ found.chats) : LinkedAt s token number record := by
  have hget := (Keyed.get?_eq_some_iff_mem h.tokens).mpr hfound
  exact ⟨found, hget, (Keyed.get?_eq_some_iff_mem (h.chats token found hget).nodup).mpr hlink⟩

theorem contents_store {application : Application} :
    (s.store application).contents =
      Keyed.put application.token ⟨application.bare, []⟩ s.contents := Keyed.mapValues_put

/-- A record that has no link does not show. -/
theorem Linkage.contents_of_unlinked (h : Linkage s)
    (happlications : s'.applications = s.applications)
    (hchats : ∀ other, other ≠ record → s'.chatAt other = s.chatAt other)
    (hnone : ∀ token number, ¬LinkedAt s token number record) : s'.contents = s.contents := by
  unfold State.contents
  rw [happlications]
  refine Keyed.mapValues_congr fun entry hentry => contents_congr fun link hlink => ?_
  rw [hchats]
  intro heq
  exact hnone entry.1 link.1 (heq ▸ h.linkedAt_of_mem hentry hlink)

/-- A record that has a link shows there. -/
theorem Linkage.contents_of_linked (h : Linkage s)
    (happlications : s'.applications = s.applications)
    (hchats : ∀ other, other ≠ record → s'.chatAt other = s.chatAt other)
    (hlink : LinkedAt s token number record) :
    s'.contents = Keyed.update token (fun found =>
      { found with
        chats := Keyed.update number (fun _ => (s'.chatAt record).contents) found.chats })
      s.contents := by
  unfold State.contents
  rw [happlications]
  refine Keyed.mapValues_eq_update fun entry hentry => ?_
  have hplace : ∀ other ∈ entry.2.chats, LinkedAt s entry.1 other.1 other.2 := fun other hother =>
    h.linkedAt_of_mem hentry hother
  split
  · next htoken =>
      have hchats' : Keyed.mapValues (fun other => (s'.chatAt other).contents) entry.2.chats =
          Keyed.update number (fun _ => (s'.chatAt record).contents)
            (Keyed.mapValues (fun other => (s.chatAt other).contents) entry.2.chats) := by
        refine Keyed.mapValues_eq_update fun other hother => ?_
        split
        · next hnumber =>
            have hother := hplace other hother
            rw [htoken, hnumber] at hother
            rw [hother.unique hlink]
        · next hnumber =>
            have hne : other.2 ≠ record := fun heq =>
              hnumber (h.once _ _ _ _ record (heq ▸ hplace other hother) hlink).2
            rw [hchats _ hne]
      unfold ApplicationRecord.contents
      rw [hchats']
  · next htoken =>
      refine contents_congr fun other hother => ?_
      have hne : other.2 ≠ record := fun heq =>
        htoken (h.once _ _ _ _ record (heq ▸ hplace other hother) hlink).1
      rw [hchats _ hne]

theorem Linkage.contents_eq_setChat (h : Linkage s)
    (happlications : s'.applications = s.applications)
    (hchats : ∀ other, other ≠ record → s'.chatAt other = s.chatAt other)
    (hlink : LinkedAt s token number record) :
    s'.contents = s.contents.setChat token number (s'.chatAt record).contents := by
  rw [h.contents_of_linked happlications hchats hlink]
  obtain ⟨found, hfound, -⟩ := hlink
  have hcontents := get?_contents_of_some hfound
  have hnodup : (Keyed.keys s.contents).Nodup := keys_contents ▸ h.tokens
  rw [Contents.setChat, hcontents]
  exact Keyed.update_congr hnodup hcontents rfl

theorem Linkage.contents_link (h : Linkage s) {application : Application} :
    (s.link m token application number count).contents =
      Keyed.update token (.addChat number count) s.contents := by
  have hat : ∀ other, (s.link m token application number count).chatAt other =
      if s.ids + 1 = other then ⟨newChat m (s.ids + 1) application number, [], false⟩
      else s.chatAt other := by
    intro other
    unfold State.chatAt
    rw [get?_chats_link]
    split <;> rfl
  have hold : Keyed.mapValues (·.contents (s.link m token application number count).chatAt)
      s.applications = s.contents := by
    refine Keyed.mapValues_congr fun entry hentry => contents_congr fun link hlink => ?_
    have hle := h.le_ids (h.linkedAt_of_mem hentry hlink)
    rw [hat, if_neg (by omega)]
  rw [← hold]
  refine Keyed.mapValues_update fun other => ?_
  unfold ApplicationRecord.contents ApplicationRecord.addLink
  rw [Keyed.mapValues_putAscending, hat, if_pos rfl]
  rfl

theorem contents_unlink :
    (s.unlink m token number count).contents =
      Keyed.update token (.removeChat number count) s.contents := by
  refine Keyed.mapValues_update fun found => ?_
  unfold ApplicationRecord.contents ApplicationRecord.removeLink
  rw [Keyed.mapValues_erase]
  rfl

end Memory

end ChatService
