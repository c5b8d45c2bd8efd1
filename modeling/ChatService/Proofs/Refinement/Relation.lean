import ChatService.Database.Connect
import ChatService.Proofs.Database.Execution
import ChatService.Proofs.Memory.Sequential
import ChatService.Proofs.Refinement.Rows

/-!
# A store in memory and its image in the database

The database keeps in three flat collections what memory keeps in nested maps: the applications, the
chats that are not deleted, and their messages.  The first two stand in the order in which memory
has them; messages of several chats are mixed.  What one store looks up, the other one finds.
-/

namespace ChatService.Refinement

open Database (ObjectId Record)
open Database.Server (recordsOf isMatch)
open Memory (ApplicationRecord ChatRecord Settled Used)
open Store (Application Message)

/-! ## what a store contains -/

/-- The chats that are not deleted. -/
def liveChats (s : Memory.State) : Keyed Nat ChatRecord :=
  s.chats.filter fun entry => !entry.2.deleted

/-- The messages of a chat record. -/
def messagesOf (entry : Nat × ChatRecord) : List Message := entry.2.messages.map (·.2)

def applicationRecord (ids : Nat → ObjectId) (entry : String × ApplicationRecord) : Record :=
  (applicationRow ids entry.2.application).toRecord

def chatRecord (ids : Nat → ObjectId) (entry : Nat × ChatRecord) : Record :=
  (chatRow ids entry.2.chat).toRecord

def messageRecord (ids : Nat → ObjectId) (message : Message) : Record :=
  (messageRow ids message).toRecord

/-- The server once the store is opened: no records, and the unique indexes. -/
def opened : Database.Server.State :=
  { records := []
    unique :=
      [(Database.applications, [["token"]]), (Database.chats, [["application_id", "number"]]),
        (Database.messages, [["chat_id", "number"]])]
    transaction := none }

/-- **The relation between the two stores.** -/
structure Simulates (ids : Nat → ObjectId) (s : Memory.State)
    (t : Database.Server.State × Nat) : Prop where
  idle : t.1.transaction = none
  unique : t.1.unique = opened.unique
  handed : t.2 = s.ids
  applications : recordsOf Database.applications t.1.records =
    s.applications.map (applicationRecord ids)
  chats : recordsOf Database.chats t.1.records = (liveChats s).map (chatRecord ids)
  messages : ∃ posted : List Message,
    recordsOf Database.messages t.1.records = posted.map (messageRecord ids) ∧
      posted.Perm (s.chats.flatMap messagesOf)

theorem exec_storeIndexes (r : Database.Reading) :
    (Database.sendAll Database.storeIndexes).exec r (.empty, 0) = (.ok (), opened, 0) := rfl

theorem simulates_opened (ids : Nat → ObjectId) : Simulates ids .empty (opened, 0) where
  idle := rfl
  unique := rfl
  handed := rfl
  applications := rfl
  chats := rfl
  messages := ⟨[], rfl, .refl _⟩

/-! ## which ids are in use -/

section Used

variable {s : Memory.State} {token : String} {found : ApplicationRecord} {record : Nat}
  {chat : ChatRecord}

/-- The ids of everything that is stored were given out. -/
theorem used_of_stored (h : Settled s) {id : String} (hid : id ∈ Memory.storedIds s) :
    Used s id := by
  obtain ⟨helds, hinv⟩ := h.inv
  exact hinv.ids.used id (List.mem_append_left _ hid)

theorem used_application (h : Settled s) (hfound : Keyed.get? token s.applications = some found) :
    Used s found.application.id :=
  used_of_stored h <| List.mem_append_left _ <|
    List.mem_map_of_mem (f := (·.2.application.id)) (Keyed.mem_of_get?_eq_some hfound)

theorem used_chat (h : Settled s) (hchat : Keyed.get? record s.chats = some chat) :
    Used s chat.chat.id :=
  used_of_stored h <| List.mem_append_right _ <|
    List.mem_flatMap.mpr ⟨_, Keyed.mem_of_get?_eq_some hchat, List.mem_cons_self⟩

theorem used_message (h : Settled s) (hchat : Keyed.get? record s.chats = some chat)
    {entry : Int × Message} (hentry : entry ∈ chat.messages) : Used s entry.2.id :=
  used_of_stored h <| List.mem_append_right _ <|
    List.mem_flatMap.mpr ⟨_, Keyed.mem_of_get?_eq_some hchat,
      List.mem_cons_of_mem _ (List.mem_map_of_mem (f := (·.2.id)) hentry)⟩

/-- The application of a chat has an id, too. -/
theorem used_home (h : Settled s) (hchat : Keyed.get? record s.chats = some chat) :
    Used s chat.chat.applicationId := by
  obtain ⟨token, found, hfound, hhome⟩ := (h.shape.chat record chat hchat).home
  exact hhome ▸ used_application h hfound

/-- Everything that is stored has an id of its own. -/
theorem length_storedIds_le (h : Settled s) : (Memory.storedIds s).length ≤ s.ids := by
  obtain ⟨helds, hinv⟩ := h.inv
  have hnodup : (Memory.storedIds s).Nodup := hinv.ids.nodup.of_append_left
  have hsubset : Memory.storedIds s ⊆ (List.range' 1 s.ids).map Memory.idText := by
    intro id hid
    obtain ⟨i, hi, hi', rfl⟩ := used_of_stored h hid
    exact List.mem_map_of_mem (List.mem_range'_1.mpr ⟨hi, by omega⟩)
  simpa using (hnodup.subperm hsubset).length_le

theorem chat_id_inj (h : Settled s) (hfew : s.ids < 16 ^ 24) {record' : Nat} {chat' : ChatRecord}
    (hchat : Keyed.get? record s.chats = some chat)
    (hchat' : Keyed.get? record' s.chats = some chat') :
    chat.chat.id = chat'.chat.id ↔ record = record' := by
  have hgiven := (h.shape.chat record chat hchat).given
  have hgiven' := (h.shape.chat record' chat' hchat').given
  rw [(h.tidy.chat record chat hchat).id, (h.tidy.chat record' chat' hchat').id]
  exact Memory.idText_inj (by omega) (by omega)

/-- What a link leads to. -/
theorem chatAt_of_link (h : Settled s) (hfound : Keyed.get? token s.applications = some found)
    {link : Int × Nat} (hlink : link ∈ found.chats) :
    Keyed.get? link.2 s.chats = some (s.chatAt link.2) ∧ (s.chatAt link.2).deleted = false ∧
      (s.chatAt link.2).chat.number = link.1 ∧
      (s.chatAt link.2).chat.applicationId = found.application.id := by
  have hsound := h.shape.application token found hfound
  have hnodup : (Keyed.keys found.chats).Nodup := hsound.ascending.imp fun hlt => Int.ne_of_lt hlt
  have hget := (Keyed.get?_eq_some_iff_mem hnodup).mpr hlink
  obtain ⟨hchat, hlive⟩ := h.get?_chats (Memory.lookupChat_eq_ok.mpr ⟨found, hfound, hget⟩)
  obtain ⟨chat, hchat', hnumber, hhome, -⟩ := hsound.linked _ _ hget
  obtain rfl := Option.some.inj (hchat.symm.trans hchat')
  exact ⟨hchat, hlive, hnumber, hhome⟩

/-- A chat belongs to an application under a number exactly if the application links it there. -/
theorem linked_iff (h : Settled s) (hfound : Keyed.get? token s.applications = some found)
    (hchat : Keyed.get? record s.chats = some chat) (hlive : chat.deleted = false) {number : Int} :
    chat.chat.applicationId = found.application.id ∧ chat.chat.number = number ↔
      Keyed.get? number found.chats = some record := by
  constructor
  · rintro ⟨hid, rfl⟩
    obtain ⟨token', found', hfound', hlink⟩ := h.linked hchat hlive
    obtain ⟨chat', hchat', -, hhome', -⟩ :=
      (h.shape.application token' found' hfound').linked _ _ hlink
    obtain rfl := Option.some.inj (hchat.symm.trans hchat')
    obtain ⟨helds, hinv⟩ := h.inv
    obtain rfl := hinv.ids.token_eq hfound' hfound (hhome'.symm.trans hid)
    obtain rfl := Option.some.inj (hfound.symm.trans hfound')
    exact hlink
  · intro hlink
    obtain ⟨chat', hchat', hnumber, hhome', -⟩ :=
      (h.shape.application token found hfound).linked _ _ hlink
    obtain rfl := Option.some.inj (hchat.symm.trans hchat')
    exact ⟨hhome', hnumber⟩

end Used

/-! ## what filters select -/

/-- Two stores that have run the same operations so far. -/
structure Paired (ids : Nat → ObjectId) (s : Memory.State)
    (t : Database.Server.State × Nat) : Prop extends Simulates ids s t where
  settled : Settled s
  increasing : Increasing ids s.ids
  few : (s.ids : Int) < Word.maxInt64

section Filters

variable {ids : Nat → ObjectId} {s : Memory.State} {t : Database.Server.State × Nat}
  {token : String} {number : Int} {found : ApplicationRecord} {record : Nat} {chat : ChatRecord}

theorem Paired.next_lt (h : Paired ids s t) : s.ids + 1 < 16 ^ 24 := by
  have hfew := h.few
  unfold Word.maxInt64 at hfew
  omega

theorem Paired.ids_lt (h : Paired ids s t) : s.ids < 16 ^ 24 := Nat.lt_of_succ_lt h.next_lt

theorem Paired.objectId_inj (h : Paired ids s t) {a b : String} (ha : Used s a) (hb : Used s b) :
    objectId ids a = objectId ids b ↔ a = b := h.increasing.objectId_inj h.ids_lt ha hb

theorem Paired.get?_application (h : Paired ids s t) {entry : String × ApplicationRecord}
    (hentry : entry ∈ s.applications) : Keyed.get? entry.1 s.applications = some entry.2 :=
  (Keyed.get?_eq_some_iff_mem h.settled.shape.tokens).mpr hentry

theorem Paired.get?_chat (h : Paired ids s t) {entry : Nat × ChatRecord}
    (hentry : entry ∈ liveChats s) :
    Keyed.get? entry.1 s.chats = some entry.2 ∧ entry.2.deleted = false := by
  obtain ⟨hmem, hlive⟩ := List.mem_filter.mp hentry
  exact ⟨(Keyed.get?_eq_some_iff_mem h.settled.shape.records).mpr hmem, by simpa using hlive⟩

theorem Paired.isMatch_tokenIs (h : Paired ids s t) (token : String) :
    ∀ entry ∈ s.applications,
      isMatch (Database.tokenIs token) (applicationRecord ids entry) =
        decide (entry.1 = token) := by
  intro entry hentry
  have htoken := (h.settled.tidy.application _ _ (h.get?_application hentry)).token
  have hfields := Database.ApplicationRow.fields_of_holds
    (applicationRow ids entry.2.application).holds_toRecord
  rw [Bool.eq_iff_iff, Database.Server.isMatch_tokenIs, decide_eq_true_iff, applicationRecord,
    hfields.2.1, ← htoken]
  simp [applicationRow]

theorem Paired.isMatch_idIs (h : Paired ids s t)
    (hfound : Keyed.get? token s.applications = some found) :
    ∀ entry ∈ s.applications,
      isMatch (Database.idIs (objectId ids found.application.id)) (applicationRecord ids entry) =
        decide (entry.1 = token) := by
  intro entry hentry
  have happlication := h.get?_application hentry
  have hfields := Database.ApplicationRow.fields_of_holds
    (applicationRow ids entry.2.application).holds_toRecord
  have hsame : entry.2.application.id = found.application.id ↔ entry.1 = token := by
    obtain ⟨helds, hinv⟩ := h.settled.inv
    refine ⟨hinv.ids.token_eq happlication hfound, fun heq => ?_⟩
    rw [heq, hfound] at happlication
    rw [Option.some.inj happlication]
  rw [Bool.eq_iff_iff, Database.Server.isMatch_idIs, decide_eq_true_iff, applicationRecord,
    hfields.1, ← hsame]
  simpa [applicationRow] using h.objectId_inj (used_application h.settled happlication)
    (used_application h.settled hfound)

theorem Paired.isMatch_inApplication (h : Paired ids s t)
    (hfound : Keyed.get? token s.applications = some found) :
    ∀ entry ∈ liveChats s,
      isMatch (Database.inApplication (objectId ids found.application.id))
        (chatRecord ids entry) =
          decide (entry.2.chat.applicationId = found.application.id) := by
  intro entry hentry
  have hfields := Database.ChatRow.fields_of_holds (chatRow ids entry.2.chat).holds_toRecord
  rw [Bool.eq_iff_iff, Database.Server.isMatch_inApplication, decide_eq_true_iff, chatRecord,
    hfields.2.1]
  simpa [chatRow] using h.objectId_inj (used_home h.settled (h.get?_chat hentry).1)
    (used_application h.settled hfound)

theorem Paired.isMatch_chatIs (h : Paired ids s t)
    (hfound : Keyed.get? token s.applications = some found) (number : Int) :
    ∀ entry ∈ liveChats s,
      isMatch (Database.chatIs (objectId ids found.application.id) number)
        (chatRecord ids entry) =
          decide (Keyed.get? number found.chats = some entry.1) := by
  intro entry hentry
  obtain ⟨hchat, hlive⟩ := h.get?_chat hentry
  have hfields := Database.ChatRow.fields_of_holds (chatRow ids entry.2.chat).holds_toRecord
  have hhome := h.objectId_inj (used_home h.settled hchat) (used_application h.settled hfound)
  rw [Bool.eq_iff_iff, Database.Server.isMatch_chatIs, decide_eq_true_iff, chatRecord,
    hfields.2.1, hfields.2.2.1]
  simp only [chatRow, Option.some.injEq, Database.Value.objectId.injEq, Database.Value.long.injEq,
    hhome]
  exact linked_iff h.settled hfound hchat hlive

theorem Paired.isMatch_inChat (h : Paired ids s t)
    (hchat : Keyed.get? record s.chats = some chat) :
    ∀ entry ∈ s.chats, ∀ message ∈ messagesOf entry,
      isMatch (Database.inChat (objectId ids chat.chat.id)) (messageRecord ids message) =
        decide (entry.1 = record) := by
  intro entry hentry message hmessage
  obtain ⟨keyed, hkeyed, rfl⟩ := List.mem_map.mp hmessage
  have hchat' := (Keyed.get?_eq_some_iff_mem h.settled.shape.records).mpr hentry
  have hchatId := ((h.settled.tidy.chat _ _ hchat').message keyed hkeyed).chatId
  have hfield : Keyed.get? "chat_id" (messageRecord ids keyed.2) =
      some (.objectId (objectId ids keyed.2.chatId)) := rfl
  have hsame := h.objectId_inj (used_chat h.settled hchat') (used_chat h.settled hchat)
  rw [Bool.eq_iff_iff, Database.Server.isMatch_inChat, decide_eq_true_iff, hfield, hchatId,
    ← chat_id_inj h.settled h.ids_lt hchat' hchat]
  simpa using hsame

/-! ## lookups -/

theorem Paired.keys_liveChats (h : Paired ids s t) : (Keyed.keys (liveChats s)).Nodup :=
  h.settled.shape.records.sublist (List.filter_sublist.map _)

theorem Paired.get?_liveChats (h : Paired ids s t)
    (hchat : Keyed.get? record s.chats = some chat) (hlive : chat.deleted = false) :
    Keyed.get? record (liveChats s) = some chat := by
  refine (Keyed.get?_eq_some_iff_mem h.keys_liveChats).mpr (List.mem_filter.mpr ⟨?_, ?_⟩)
  · exact Keyed.mem_of_get?_eq_some hchat
  · simp [hlive]

theorem Paired.find?_application (h : Paired ids s t) (token : String) :
    (recordsOf Database.applications t.1.records).find? (isMatch (Database.tokenIs token)) =
      (Keyed.get? token s.applications).map fun found => applicationRecord ids (token, found) := by
  rw [h.applications]
  exact Keyed.find?_map (h.isMatch_tokenIs token)

/-- A chat that is linked under a number, as a search finds it. -/
theorem Paired.isMatch_chatIs_of_link (h : Paired ids s t)
    (hfound : Keyed.get? token s.applications = some found)
    (hlink : Keyed.get? number found.chats = some record) :
    ∀ entry ∈ liveChats s,
      isMatch (Database.chatIs (objectId ids found.application.id) number)
        (chatRecord ids entry) = decide (entry.1 = record) := by
  intro entry hentry
  rw [h.isMatch_chatIs hfound number entry hentry, hlink]
  simp [eq_comm]

theorem Paired.find?_chat (h : Paired ids s t)
    (hfound : Keyed.get? token s.applications = some found) (number : Int) :
    (recordsOf Database.chats t.1.records).find?
        (isMatch (Database.chatIs (objectId ids found.application.id) number)) =
      (Keyed.get? number found.chats).map fun record =>
        chatRecord ids (record, s.chatAt record) := by
  rw [h.chats]
  cases hlink : Keyed.get? number found.chats with
  | none =>
      refine List.find?_eq_none.mpr fun stored hstored => ?_
      obtain ⟨entry, hentry, rfl⟩ := List.mem_map.mp hstored
      simp [h.isMatch_chatIs hfound number entry hentry, hlink]
  | some record =>
      have hlookup := Memory.lookupChat_eq_ok.mpr ⟨found, hfound, hlink⟩
      obtain ⟨hchat, hlive⟩ := h.settled.get?_chats hlookup
      rw [Keyed.find?_map (h.isMatch_chatIs_of_link hfound hlink), h.get?_liveChats hchat hlive]
      rfl

end Filters

/-! ## reading rows -/

section Rows

variable {ids : Nat → ObjectId} {missing : StoreError}

@[simp] theorem rowOrError_applicationRecord (entry : String × ApplicationRecord) :
    Database.rowOrError Database.ApplicationRow.ofRecord? missing
      (some (applicationRecord ids entry)) = .ok (applicationRow ids entry.2.application) := by
  rw [Database.rowOrError, Database.rowOf, applicationRecord,
    Database.ApplicationRow.ofRecord?_of_holds (Database.ApplicationRow.holds_toRecord _)]

@[simp] theorem rowOrError_chatRecord (entry : Nat × ChatRecord) :
    Database.rowOrError Database.ChatRow.ofRecord? missing (some (chatRecord ids entry)) =
      .ok (chatRow ids entry.2.chat) := by
  rw [Database.rowOrError, Database.rowOf, chatRecord,
    Database.ChatRow.ofRecord?_of_holds (Database.ChatRow.holds_toRecord _)]

end Rows

/-! ## looking up -/

section Exec

variable {r : Database.Reading} {s : Memory.State} {t : Database.Server.State × Nat}

/-- Both stores find the same application, or none. -/
theorem Paired.exec_applicationRow (h : Paired r.ids s t) (token : String) :
    (Database.applicationRow token).exec r t =
      ((s.lookupApplication token).map fun found => applicationRow r.ids found.application, t) := by
  have hfind : (Database.Script.send none
      (.findOne Database.applications (Database.tokenIs token))).exec r t =
        (.ok ((Keyed.get? token s.applications).map fun found =>
          applicationRecord r.ids (token, found)), t) := by
    rw [← h.find?_application token]
    rfl
  rw [Database.applicationRow, Database.Script.exec_bind_of_ok hfind,
    Database.Script.exec_ofExcept, Memory.State.lookupApplication]
  cases Keyed.get? token s.applications with
  | none => rfl
  | some found => rw [Option.map_some, rowOrError_applicationRecord]; rfl

/-- Both stores find the same chat, or none. -/
theorem Paired.exec_chatRow (h : Paired r.ids s t) (token : String) (number : Int) :
    (Database.chatRow token number).exec r t =
      ((s.lookupChat token number).map fun record => chatRow r.ids (s.chatAt record).chat, t) := by
  have happlication := h.exec_applicationRow token
  cases hfound : s.lookupApplication token with
  | error e =>
      rw [hfound] at happlication
      rw [Database.chatRow, Database.Script.exec_bind_of_error happlication,
        Memory.State.lookupChat, hfound]
      rfl
  | ok found =>
      rw [hfound] at happlication
      have hfind : (Database.Script.send none (.findOne Database.chats
          (Database.chatIs (applicationRow r.ids found.application).id number))).exec r t =
            (.ok ((Keyed.get? number found.chats).map fun record =>
              chatRecord r.ids (record, s.chatAt record)), t) := by
        rw [← h.find?_chat (Memory.lookupApplication_eq_ok.mp hfound) number]
        rfl
      rw [Database.chatRow, Database.Script.exec_bind_of_ok happlication,
        Database.Script.exec_bind_of_ok hfind, Database.Script.exec_ofExcept,
        Memory.State.lookupChat, hfound]
      dsimp only
      cases Keyed.get? number found.chats with
      | none => rfl
      | some record => rw [Option.map_some, rowOrError_chatRecord]; rfl

variable {α : Type}

/-- What is done with an application that is found, or its absence. -/
theorem Paired.exec_applicationRow_bind (h : Paired r.ids s t) {token : String}
    {next : Database.ApplicationRow → Database.Script α} (value : ApplicationRecord → α)
    (hnext : ∀ found, Keyed.get? token s.applications = some found →
      (next (applicationRow r.ids found.application)).exec r t = (.ok (value found), t)) :
    (Database.applicationRow token >>= next).exec r t =
      ((s.lookupApplication token).map value, t) := by
  have happlication := h.exec_applicationRow token
  cases hfound : s.lookupApplication token with
  | error e =>
      rw [hfound] at happlication
      exact Database.Script.exec_bind_of_error happlication
  | ok found =>
      rw [hfound] at happlication
      rw [Database.Script.exec_bind_of_ok happlication]
      exact hnext found (Memory.lookupApplication_eq_ok.mp hfound)

/-- What is done with a chat that is found, or its absence. -/
theorem Paired.exec_chatRow_bind (h : Paired r.ids s t) {token : String} {number : Int}
    {next : Database.ChatRow → Database.Script α} (value : Nat → α)
    (hnext : ∀ record, s.lookupChat token number = .ok record →
      (next (chatRow r.ids (s.chatAt record).chat)).exec r t = (.ok (value record), t)) :
    (Database.chatRow token number >>= next).exec r t =
      ((s.lookupChat token number).map value, t) := by
  have hchat := h.exec_chatRow token number
  cases hrecord : s.lookupChat token number with
  | error e =>
      rw [hrecord] at hchat
      exact Database.Script.exec_bind_of_error hchat
  | ok record =>
      rw [hrecord] at hchat
      rw [Database.Script.exec_bind_of_ok hchat]
      exact hnext record hrecord

end Exec

end ChatService.Refinement
