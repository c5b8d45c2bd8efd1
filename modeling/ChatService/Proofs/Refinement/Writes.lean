import ChatService.Proofs.Refinement.Reads

/-!
# Operations that write, in both stores

Memory changes one record or two under a lock; the database sends a few commands in a transaction.
First it is said what each change of memory is in the database, collection by collection; then the
scripts are run and seen to do exactly that.  No number runs out and no transaction conflicts, so a
unit of work that finds its application and chat always succeeds.
-/

namespace ChatService.Refinement

open Database (ObjectId Record Reading Script begun)
open Database.Server (recordsOf isMatch sameKey)
open Memory (ApplicationRecord ChatRecord Moment Settled Used perform)
open Store (Application Message Operation RetryPolicy)

variable {ids : Nat → ObjectId} {m : Moment} {s : Memory.State} {state : Database.Server.State}
  {token : String} {number count : Int} {found : ApplicationRecord} {record : Nat}
  {chat : ChatRecord}

/-! ## what a change is in the database -/

section Changes

/-- A change of live chats that deletes none. -/
theorem liveChats_update {f : ChatRecord → ChatRecord} (entries : Keyed Nat ChatRecord)
    (h : ∀ chat, (f chat).deleted = chat.deleted) :
    (Keyed.update record f entries).filter (fun entry => !entry.2.deleted) =
      Keyed.update record f (entries.filter fun entry => !entry.2.deleted) := by
  induction entries with
  | nil => rfl
  | cons entry rest ih =>
      simp only [Keyed.update] at ih
      by_cases hkey : entry.1 = record <;> by_cases hlive : entry.2.deleted = true <;>
        simp [Keyed.update, hkey, hlive, h, ih]

/-- A chat that is marked as deleted. -/
theorem liveChats_mark {f : ChatRecord → ChatRecord} (entries : Keyed Nat ChatRecord)
    (h : ∀ chat, (f chat).deleted = true) :
    (Keyed.update record f entries).filter (fun entry => !entry.2.deleted) =
      Keyed.erase record (entries.filter fun entry => !entry.2.deleted) := by
  induction entries with
  | nil => rfl
  | cons entry rest ih =>
      simp only [Keyed.update, Keyed.erase] at ih
      by_cases hkey : entry.1 = record <;> by_cases hlive : entry.2.deleted = true <;>
        simp [Keyed.update, Keyed.erase, h, hkey, hlive, ih]

theorem get?_chats_next (h : Settled s) : Keyed.get? (s.ids + 1) s.chats = none := by
  cases hnext : Keyed.get? (s.ids + 1) s.chats with
  | none => rfl
  | some chat =>
      have := (h.shape.chat _ chat hnext).given
      omega

variable (h : Paired ids s (state, s.ids))
include h

/-- A new application is a new record. -/
theorem Paired.simulates_store (hfree : Keyed.get? m.token s.applications = none) (name : String) :
    let application := Memory.newApplication m (s.ids + 1) name
    Simulates ids (s.takeId.store application)
      ({ state with
          records := Keyed.put Database.applications
            (recordsOf Database.applications state.records ++
              [(applicationRow ids application).toRecord]) state.records },
        s.ids + 1) := by
  intro application
  have happlications : (s.takeId.store application).applications =
      s.applications ++ [(m.token, ⟨application, []⟩)] := Keyed.put_eq_append hfree
  refine
    { idle := h.idle, unique := h.unique, handed := rfl
      applications := ?_, chats := ?_, messages := ?_ }
  · rw [Database.Server.recordsOf_put, if_pos rfl, happlications, List.map_append, h.applications]
    rfl
  · rw [Database.Server.recordsOf_put, if_neg Database.applications_ne_chats]
    exact h.chats
  · rw [Database.Server.recordsOf_put, if_neg Database.applications_ne_messages]
    exact h.messages

/-- A new chat is a new record, and a change of its application's. -/
theorem Paired.simulates_link (application : Application) :
    let chat := Memory.newChat m (s.ids + 1) application number
    let raised := (Keyed.update token (.addLink m number count (s.ids + 1)) s.applications).map
      (applicationRecord ids)
    Simulates ids (s.link m token application number count)
      ({ state with
          records := Keyed.put Database.chats
            (recordsOf Database.chats (Keyed.put Database.applications raised state.records) ++
              [(chatRow ids chat).toRecord])
            (Keyed.put Database.applications raised state.records) },
        s.ids + 1) := by
  intro chat raised
  have hchats : (s.link m token application number count).chats =
      s.chats ++ [(s.ids + 1, ⟨chat, [], false⟩)] := Keyed.put_eq_append (get?_chats_next h.settled)
  have hlive : liveChats (s.link m token application number count) =
      liveChats s ++ [(s.ids + 1, ⟨chat, [], false⟩)] := by
    rw [liveChats, hchats, List.filter_append]
    rfl
  refine
    { idle := h.idle, unique := h.unique, handed := rfl
      applications := ?_, chats := ?_, messages := ?_ }
  · rw [Database.Server.recordsOf_put, if_neg Database.chats_ne_applications,
      Database.Server.recordsOf_put, if_pos rfl]
    rfl
  · rw [Database.Server.recordsOf_put, if_pos rfl, Database.Server.recordsOf_put,
      if_neg Database.applications_ne_chats, h.chats, hlive, List.map_append]
    rfl
  · rw [Database.Server.recordsOf_put, if_neg Database.chats_ne_messages,
      Database.Server.recordsOf_put, if_neg Database.applications_ne_messages, hchats,
      List.flatMap_append]
    simpa [messagesOf] using h.messages

/-- A chat that is gone is gone with its messages, and its application is changed. -/
theorem Paired.simulates_remove (hfound : Keyed.get? token s.applications = some found)
    (hlink : Keyed.get? number found.chats = some record) :
    let chatId := objectId ids (s.chatAt record).chat.id
    let removed := Keyed.put Database.chats ((recordsOf Database.chats state.records).eraseP
      (isMatch (Database.chatIs (objectId ids found.application.id) number))) state.records
    let emptied := Keyed.put Database.messages ((recordsOf Database.messages removed).filter
      fun message => !isMatch (Database.inChat chatId) message) removed
    let lowered := (Keyed.update token (.removeLink m number count) s.applications).map
      (applicationRecord ids)
    Simulates ids ((s.unlink m token number count).mark record)
      ({ state with records := Keyed.put Database.applications lowered emptied }, s.ids) := by
  intro chatId removed emptied lowered
  have hlookup := Memory.lookupChat_eq_ok.mpr ⟨found, hfound, hlink⟩
  obtain ⟨hchat, -⟩ := h.settled.get?_chats hlookup
  refine
    { idle := h.idle, unique := h.unique, handed := rfl
      applications := ?_, chats := ?_, messages := ?_ }
  · rw [Database.Server.recordsOf_put, if_pos rfl]
    rfl
  · rw [Database.Server.recordsOf_put, if_neg Database.applications_ne_chats,
      Database.Server.recordsOf_put, if_neg Database.messages_ne_chats,
      Database.Server.recordsOf_put, if_pos rfl, h.chats,
      Keyed.eraseP_map h.keys_liveChats (h.isMatch_chatIs_of_link hfound hlink)]
    exact congrArg _ (liveChats_mark s.chats fun _ => rfl).symm
  · obtain ⟨posted, hposted, hperm⟩ := h.messages
    rw [Database.Server.recordsOf_put, if_neg Database.applications_ne_messages,
      Database.Server.recordsOf_put, if_pos rfl, Database.Server.recordsOf_put,
      if_neg Database.chats_ne_messages, hposted, List.filter_map]
    refine ⟨_, rfl, (hperm.filter _).trans ?_⟩
    exact .of_eq (Keyed.filter_not_flatMap (fun _ => rfl) (h.isMatch_inChat hchat))

/-- A new message is a new record, and a change of its chat's. -/
theorem Paired.simulates_post (hchat : Keyed.get? record s.chats = some chat)
    (hlive : chat.deleted = false) (hnumber : number = chat.chat.lastMessageNumber + 1)
    (body : String) :
    let message := Memory.newMessage m (s.ids + 1) chat.chat number body
    let raised := (Keyed.update record (.addMessage m number count message) (liveChats s)).map
      (chatRecord ids)
    Simulates ids (s.post m record chat.chat number count body)
      ({ state with
          records := Keyed.put Database.messages
            (recordsOf Database.messages (Keyed.put Database.chats raised state.records) ++
              [messageRecord ids message])
            (Keyed.put Database.chats raised state.records) },
        s.ids + 1) := by
  intro message raised
  obtain ⟨posted, hposted, hperm⟩ := h.messages
  refine
    { idle := h.idle, unique := h.unique, handed := rfl
      applications := ?_, chats := ?_, messages := ⟨posted ++ [message], ?_, ?_⟩ }
  · rw [Database.Server.recordsOf_put, if_neg Database.messages_ne_applications,
      Database.Server.recordsOf_put, if_neg Database.chats_ne_applications]
    exact h.applications
  · rw [Database.Server.recordsOf_put, if_neg Database.messages_ne_chats,
      Database.Server.recordsOf_put, if_pos rfl]
    have hposted : liveChats (s.post m record chat.chat number count body) =
        Keyed.update record (.addMessage m number count message) (liveChats s) :=
      liveChats_update s.chats fun _ => rfl
    rw [hposted]
  · rw [Database.Server.recordsOf_put, if_pos rfl, Database.Server.recordsOf_put,
      if_neg Database.chats_ne_messages, hposted, List.map_append]
    rfl
  · have hadded := (h.settled.shape.chat record chat hchat).messages_addMessage hlive hnumber m
      count message
    have hcollected : (messagesOf (record, chat.addMessage m number count message)).Perm
        ([message] ++ messagesOf (record, chat)) := by
      rw [messagesOf, hadded, List.map_append]
      exact List.perm_append_comm
    have hgrown := Keyed.flatMap_update_perm [message] h.settled.shape.records hchat hcollected
    exact List.perm_append_comm.trans ((hperm.append_left _).trans hgrown.symm)

end Changes

/-! ## rows of new items -/

section New

variable {r : Reading} {i : Nat}

/-- A time that the calendar reaches. -/
theorem moment_now (h : (Timestamp.ofMillis? r.ms).isSome) :
    (moment r).now.IsReading ∧ (moment r).now.millis = r.ms := by
  obtain ⟨t, ht⟩ := Option.isSome_iff_exists.mp h
  have hnow : (moment r).now = t := by rw [moment, Database.timeOfMillis, ht, Option.getD_some]
  rw [hnow]
  exact ⟨⟨r.ms, ht⟩, Timestamp.millis_of_ofMillis? ht⟩

theorem applicationRow_new (h : (Timestamp.ofMillis? r.ms).isSome) (hi : i < 16 ^ 24)
    (name : String) :
    applicationRow r.ids (Memory.newApplication (moment r) i name) =
      Database.newApplicationRow (r.ids i) r.token name r.ms := by
  simp only [applicationRow, Memory.newApplication, objectId_idText r.ids hi, (moment_now h).2]
  rfl

theorem chatRow_new (h : (Timestamp.ofMillis? r.ms).isSome) (hi : i < 16 ^ 24)
    (application : Application) (number : Int) :
    chatRow r.ids (Memory.newChat (moment r) i application number) =
      Database.newChatRow (r.ids i) (objectId r.ids application.id) number r.ms := by
  simp only [chatRow, Memory.newChat, objectId_idText r.ids hi, (moment_now h).2]
  rfl

theorem messageRow_new (h : (Timestamp.ofMillis? r.ms).isSome) (hi : i < 16 ^ 24)
    (chat : Store.Chat) (number : Int) (body : String) :
    messageRow r.ids (Memory.newMessage (moment r) i chat number body) =
      Database.newMessageRow (r.ids i) (objectId r.ids chat.id) number body r.ms := by
  simp only [messageRow, Memory.newMessage, objectId_idText r.ids hi, (moment_now h).2]
  rfl

end New

/-! ## new items are accepted -/

section Fresh

variable (h : Paired ids s (state, s.ids)) (hnext : Increasing ids (s.ids + 1))
include h hnext

theorem Paired.fresh_application {row : Database.ApplicationRow} (hid : row.id = ids (s.ids + 1))
    (hfree : Keyed.get? row.token s.applications = none) :
    ∀ other ∈ recordsOf Database.applications state.records,
      ∀ key ∈ [["_id"], ["token"]], sameKey key other row.toRecord = false := by
  obtain ⟨hrowId, hrowToken, -⟩ := Database.ApplicationRow.fields_of_holds row.holds_toRecord
  rw [show recordsOf _ state.records = _ from h.applications]
  refine Database.Server.sameKey_eq_false_of_ne (fun other hother => ?_) (fun other hother => ?_)
  · obtain ⟨entry, hentry, rfl⟩ := List.mem_map.mp hother
    have happlication := h.get?_application hentry
    obtain ⟨hotherId, -⟩ := Database.ApplicationRow.fields_of_holds
      (applicationRow ids entry.2.application).holds_toRecord
    rw [applicationRecord, hotherId, hrowId, hid]
    simpa [applicationRow] using
      hnext.ne_next h.ids_lt (used_application h.settled happlication)
  · obtain ⟨entry, hentry, rfl⟩ := List.mem_map.mp hother
    have happlication := h.get?_application hentry
    obtain ⟨-, hotherToken, -⟩ := Database.ApplicationRow.fields_of_holds
      (applicationRow ids entry.2.application).holds_toRecord
    have htoken := (h.settled.tidy.application _ _ happlication).token
    have hne : entry.1 ≠ row.token := fun heq => by simp [heq, hfree] at happlication
    refine ⟨"token", List.mem_singleton.mpr rfl, ?_⟩
    rw [applicationRecord, hotherToken, hrowToken]
    simpa [applicationRow, htoken] using hne

theorem Paired.fresh_chat (hfound : Keyed.get? token s.applications = some found)
    {row : Database.ChatRow} (hid : row.id = ids (s.ids + 1))
    (hhome : row.applicationId = objectId ids found.application.id)
    (hnumber : row.number = found.application.lastChatNumber + 1) :
    ∀ other ∈ recordsOf Database.chats state.records,
      ∀ key ∈ [["_id"], ["application_id", "number"]],
        sameKey key other row.toRecord = false := by
  obtain ⟨hrowId, hrowHome, hrowNumber, -⟩ :=
    Database.ChatRow.fields_of_holds row.holds_toRecord
  rw [show recordsOf _ state.records = _ from h.chats]
  refine Database.Server.sameKey_eq_false_of_ne (fun other hother => ?_) (fun other hother => ?_)
  · obtain ⟨entry, hentry, rfl⟩ := List.mem_map.mp hother
    obtain ⟨hotherId, -⟩ :=
      Database.ChatRow.fields_of_holds (chatRow ids entry.2.chat).holds_toRecord
    rw [chatRecord, hotherId, hrowId, hid]
    simpa [chatRow] using
      hnext.ne_next h.ids_lt (used_chat h.settled (h.get?_chat hentry).1)
  · obtain ⟨entry, hentry, rfl⟩ := List.mem_map.mp hother
    have hchat := (h.get?_chat hentry).1
    obtain ⟨-, hotherHome, hotherNumber, -⟩ :=
      Database.ChatRow.fields_of_holds (chatRow ids entry.2.chat).holds_toRecord
    by_cases hsame : entry.2.chat.applicationId = found.application.id
    · have hrange := (h.settled.shape.chat _ _ hchat).inHome token found hfound hsame.symm
      have hne : entry.2.chat.number ≠ found.application.lastChatNumber + 1 := by omega
      refine ⟨"number", by simp, ?_⟩
      rw [chatRecord, hotherNumber, hrowNumber, hnumber]
      simpa [chatRow] using hne
    · have hne := mt (h.objectId_inj (used_home h.settled hchat)
        (used_application h.settled hfound)).mp hsame
      refine ⟨"application_id", by simp, ?_⟩
      rw [chatRecord, hotherHome, hrowHome, hhome]
      simpa [chatRow] using hne

theorem Paired.fresh_message (hchat : Keyed.get? record s.chats = some chat)
    (hlive : chat.deleted = false) {row : Database.MessageRow} (hid : row.id = ids (s.ids + 1))
    (hhome : row.chatId = objectId ids chat.chat.id)
    (hnumber : row.number = chat.chat.lastMessageNumber + 1) :
    ∀ other ∈ recordsOf Database.messages state.records,
      ∀ key ∈ [["_id"], ["chat_id", "number"]], sameKey key other row.toRecord = false := by
  obtain ⟨hrowId, hrowHome, hrowNumber⟩ := Database.MessageRow.fields_of_holds row.holds_toRecord
  obtain ⟨posted, hposted, hperm⟩ := h.messages
  rw [show recordsOf _ state.records = _ from hposted]
  have hstored : ∀ other ∈ posted.map (messageRecord ids), ∃ record' chat',
      Keyed.get? record' s.chats = some chat' ∧ ∃ entry ∈ chat'.messages,
        other = messageRecord ids entry.2 := by
    intro other hother
    obtain ⟨message, hmessage, rfl⟩ := List.mem_map.mp hother
    obtain ⟨⟨record', chat'⟩, hmem, hmessage⟩ :=
      List.mem_flatMap.mp (hperm.subset hmessage)
    obtain ⟨entry, hentry, rfl⟩ := List.mem_map.mp hmessage
    have hchat' := (Keyed.get?_eq_some_iff_mem h.settled.shape.records).mpr hmem
    exact ⟨record', chat', hchat', entry, hentry, rfl⟩
  refine Database.Server.sameKey_eq_false_of_ne (fun other hother => ?_) (fun other hother => ?_)
  · obtain ⟨record', chat', hchat', entry, hentry, rfl⟩ := hstored other hother
    obtain ⟨hotherId, -⟩ :=
      Database.MessageRow.fields_of_holds (messageRow ids entry.2).holds_toRecord
    rw [messageRecord, hotherId, hrowId, hid]
    simpa [messageRow] using
      hnext.ne_next h.ids_lt (used_message h.settled hchat' hentry)
  · obtain ⟨record', chat', hchat', entry, hentry, rfl⟩ := hstored other hother
    obtain ⟨-, hotherHome, hotherNumber⟩ :=
      Database.MessageRow.fields_of_holds (messageRow ids entry.2).holds_toRecord
    have htidy := (h.settled.tidy.chat _ _ hchat').message entry hentry
    by_cases hsame : record' = record
    · subst hsame
      obtain rfl := Option.some.inj (hchat.symm.trans hchat')
      have hlt := (h.settled.shape.chat _ _ hchat).lt_next hlive rfl entry.1
        (Keyed.mem_keys_of_mem hentry)
      refine ⟨"number", by simp, ?_⟩
      rw [messageRecord, hotherNumber, hrowNumber, hnumber]
      simpa [messageRow, htidy.number] using Int.ne_of_lt hlt
    · have hne := mt (h.objectId_inj (used_chat h.settled hchat')
        (used_chat h.settled hchat)).mp (mt (chat_id_inj h.settled h.ids_lt hchat' hchat).mp hsame)
      refine ⟨"chat_id", by simp, ?_⟩
      rw [messageRecord, hotherHome, hrowHome, hhome]
      simpa [messageRow, htidy.chatId] using hne

end Fresh

/-! ## rows of changed parents -/

section Raised

variable {r : Reading} (h : Paired r.ids s (state, s.ids))
  (hcalendar : (Timestamp.ofMillis? r.ms).isSome)
include h hcalendar

/-- Counters that are below the number of ids do not overflow. -/
theorem Paired.applyUpdate_addLink (hfound : Keyed.get? token s.applications = some found) :
    Database.Server.applyUpdate (Database.childAdded .chats "last_chat_number" r.ms)
        (applicationRecord r.ids (token, found)) =
      .ok (applicationRecord r.ids
        (token, found.addLink (moment r) (found.application.lastChatNumber + 1)
          (found.application.chatsCount + 1) (s.ids + 1))) := by
  obtain ⟨hnonneg, hle, hlast⟩ := h.settled.application_in_range h.few hfound
  obtain ⟨-, -, hrowCount, hrowLast⟩ := Database.ApplicationRow.fields_of_holds
    (applicationRow r.ids found.application).holds_toRecord
  rw [applicationRecord, Database.applyUpdate_childAdded_eq r.ms (by decide) hrowCount hrowLast,
    if_pos, applicationRecord, applicationRow, applicationRow]
  · simp only [Memory.ApplicationRecord.addLink, (moment_now hcalendar).2]
    rfl
  · simp only [applicationRow, Word.IsInt64, Word.minInt64, Word.maxInt64] at hlast ⊢
    omega

theorem Paired.applyUpdate_removeLink (hfound : Keyed.get? token s.applications = some found) :
    Database.Server.applyUpdate
        (Database.countersChange (Store.CounterUpdate.decrement .chats).increments r.ms)
        (applicationRecord r.ids (token, found)) =
      .ok (applicationRecord r.ids
        (token, found.removeLink (moment r) number (found.application.chatsCount - 1))) := by
  obtain ⟨hnonneg, hle, hlast⟩ := h.settled.application_in_range h.few hfound
  obtain ⟨-, -, hrowCount, -⟩ := Database.ApplicationRow.fields_of_holds
    (applicationRow r.ids found.application).holds_toRecord
  rw [applicationRecord, Database.applyUpdate_decrement_eq r.ms hrowCount, if_pos,
    applicationRecord, applicationRow, applicationRow]
  · simp only [Memory.ApplicationRecord.removeLink, (moment_now hcalendar).2]
    rfl
  · simp only [applicationRow, Word.IsInt64, Word.minInt64, Word.maxInt64] at hlast ⊢
    omega

theorem Paired.applyUpdate_addMessage (hchat : Keyed.get? record s.chats = some chat)
    (hlive : chat.deleted = false) (message : Message) :
    Database.Server.applyUpdate (Database.childAdded .messages "last_message_number" r.ms)
        (chatRecord r.ids (record, chat)) =
      .ok (chatRecord r.ids
        (record, chat.addMessage (moment r) (chat.chat.lastMessageNumber + 1)
          (chat.chat.messagesCount + 1) message)) := by
  obtain ⟨hnonneg, hequal, hlast⟩ := h.settled.chat_in_range h.few hchat hlive
  obtain ⟨-, -, -, hrowCount, hrowLast⟩ :=
    Database.ChatRow.fields_of_holds (chatRow r.ids chat.chat).holds_toRecord
  rw [chatRecord, Database.applyUpdate_childAdded_eq r.ms (by decide) hrowCount hrowLast, if_pos,
    chatRecord, chatRow, chatRow]
  · simp only [Memory.ChatRecord.addMessage, (moment_now hcalendar).2]
    rfl
  · simp only [chatRow, Word.IsInt64, Word.minInt64, Word.maxInt64] at hlast ⊢
    omega

end Raised

/-! ## units of work that find nothing -/

section Missing

variable {r : Reading} (h : Paired r.ids s (state, s.ids))
include h

theorem Paired.exec_insertChat_of_missing (hfound : Keyed.get? token s.applications = none) :
    ∃ records, (Database.insertChat token ⟨0⟩).exec r (state, s.ids) =
      (.error (.applicationNotFound token), begun state ⟨0⟩ records, s.ids) := by
  have hnone := h.find?_application token
  rw [hfound, Option.map_none] at hnone
  refine ⟨Keyed.put Database.applications (recordsOf Database.applications state.records)
    state.records, ?_⟩
  rw [Database.insertChat, Script.exec_bind_of_ok Script.exec_clock, Script.exec_bind_of_ok
    (Database.exec_updateAndReturn_first h.idle
      (Database.Server.changeFirst_of_find?_eq_none hnone)), hnone]
  rfl

theorem Paired.exec_removeChat_of_missing (hfound : Keyed.get? token s.applications = some found)
    (hlink : Keyed.get? number found.chats = none) :
    ∃ records, (Database.removeChat (objectId r.ids found.application.id) token number ⟨0⟩).exec r
      (state, s.ids) = (.error (.chatNotFound token number), begun state ⟨0⟩ records, s.ids) := by
  have hnone := h.find?_chat hfound number
  rw [hlink, Option.map_none] at hnone
  refine ⟨Keyed.put Database.chats ((recordsOf Database.chats state.records).eraseP
    (isMatch (Database.chatIs (objectId r.ids found.application.id) number))) state.records, ?_⟩
  rw [Database.removeChat, Script.exec_bind_of_ok (Database.exec_removeAndReturn_first h.idle),
    hnone]
  rfl

theorem Paired.exec_insertMessage_of_missing
    (hfound : Keyed.get? token s.applications = some found)
    (hlink : Keyed.get? number found.chats = none) (body : String) :
    ∃ records, (Database.insertMessage (objectId r.ids found.application.id) token number body
      ⟨0⟩).exec r (state, s.ids) =
        (.error (.chatNotFound token number), begun state ⟨0⟩ records, s.ids) := by
  have hnone := h.find?_chat hfound number
  rw [hlink, Option.map_none] at hnone
  refine ⟨Keyed.put Database.chats (recordsOf Database.chats state.records) state.records, ?_⟩
  rw [Database.insertMessage, Script.exec_bind_of_ok Script.exec_clock, Script.exec_bind_of_ok
    (Database.exec_updateAndReturn_first h.idle
      (Database.Server.changeFirst_of_find?_eq_none hnone)), hnone]
  rfl

end Missing

/-! ## the operations -/

section Writes

variable {policy : RetryPolicy} {r : Reading} (h : Paired r.ids s (state, s.ids))
  (hcalendar : (Timestamp.ofMillis? r.ms).isSome)
include h hcalendar

theorem Paired.exec_insertApplication (hnext : Increasing r.ids (s.ids + 1))
    (hfree : Keyed.get? r.token s.applications = none) (name : String) :
    let application := Memory.newApplication (moment r) (s.ids + 1) name
    (Database.insertApplication name).exec r (state, s.ids) =
      (.ok (application.renamed (renamedId r.ids)),
        { state with
          records := Keyed.put Database.applications
            (recordsOf Database.applications state.records ++
              [(applicationRow r.ids application).toRecord]) state.records },
        s.ids + 1) := by
  intro application
  have hrow := applicationRow_new hcalendar h.next_lt name
  have hmodel : (applicationRow r.ids application).toModel =
      application.renamed (renamedId r.ids) :=
    toModel_applicationRow (moment_now hcalendar).1 (moment_now hcalendar).1
  rw [Database.insertApplication, Script.exec_bind_of_ok Script.exec_clock,
    Script.exec_bind_of_ok Script.exec_freshId, Script.exec_bind_of_ok Script.exec_freshToken]
  dsimp only
  rw [← hrow]
  refine (Script.exec_bind_of_ok (Script.exec_insert ?_)).trans ?_
  · rw [show state.unique = _ from h.unique]
    exact h.fresh_application hnext (objectId_idText r.ids h.next_lt) hfree
  · rw [Script.exec_pure, hmodel]

theorem Paired.agree_createApplication (hfree : Keyed.get? r.token s.applications = none)
    (name : Option String)
    (hnext : Increasing r.ids (perform (moment r) (.createApplication name) s).1.ids) :
    Agree policy r (.createApplication name) s (state, s.ids) := by
  have hmemory := Memory.perform_createApplication (m := moment r) hfree name
  cases hname : Store.validateName name with
  | error e =>
      rw [hname] at hmemory
      refine agree_of_look h hmemory ?_
      show (Database.createApplication policy name).exec r _ = _
      rw [Database.createApplication, hname]
      rfl
  | ok name =>
      rw [hname] at hmemory
      rw [hmemory] at hnext
      refine agree_of_exec hmemory ?_ (h.simulates_store (m := moment r) hfree name)
      have hinsert := h.exec_insertApplication hcalendar hnext hfree name
      show (Database.createApplication policy _).exec r _ = _
      rw [Database.createApplication, hname, Script.exec_bind_of_ok (Script.exec_ofExcept _)]
      refine Database.exec_retry (fun detail => ?_) hinsert
      simp [Except.map]

theorem Paired.exec_insertChat (hnext : Increasing r.ids (s.ids + 1))
    (hfound : Keyed.get? token s.applications = some found) :
    let number := found.application.lastChatNumber + 1
    let chat := Memory.newChat (moment r) (s.ids + 1) found.application number
    let raised := (Keyed.update token (.addLink (moment r) number
      (found.application.chatsCount + 1) (s.ids + 1)) s.applications).map (applicationRecord r.ids)
    (Database.insertChat token ⟨0⟩).exec r (state, s.ids) =
      (.ok (chat.renamed (renamedId r.ids)),
        begun state ⟨0⟩ (Keyed.put Database.chats
          (recordsOf Database.chats (Keyed.put Database.applications raised state.records) ++
            [(chatRow r.ids chat).toRecord])
          (Keyed.put Database.applications raised state.records)),
        s.ids + 1) := by
  intro number chat raised
  have hchange : Database.Server.changeFirst (isMatch (Database.tokenIs token))
      (Database.Server.applyUpdate (Database.childAdded .chats "last_chat_number" r.ms))
      (recordsOf Database.applications state.records) = .ok raised := by
    rw [show recordsOf _ state.records = _ from h.applications]
    exact Database.Server.changeFirst_map h.settled.shape.tokens hfound
      (h.isMatch_tokenIs token) (h.applyUpdate_addLink hcalendar hfound)
  have hparent := h.find?_application token
  rw [hfound, Option.map_some] at hparent
  have hlast := (h.settled.shape.application _ _ hfound).last_nonneg
  obtain ⟨-, -, hlt⟩ := h.settled.application_in_range h.few hfound
  have hnumber : Store.nextAfter found.application.lastChatNumber = .ok number :=
    Store.nextAfter_of_lt hlast hlt
  have hrow := chatRow_new hcalendar h.next_lt found.application number
  rw [Database.insertChat, Script.exec_bind_of_ok Script.exec_clock, Script.exec_bind_of_ok
    (Database.exec_updateAndReturn_first h.idle hchange), hparent, rowOrError_applicationRecord,
    Script.exec_bind_of_ok (Script.exec_ofExcept _)]
  dsimp only [applicationRow]
  rw [hnumber, Script.exec_bind_of_ok (Script.exec_ofExcept _),
    Script.exec_bind_of_ok Script.exec_clock, Script.exec_bind_of_ok Script.exec_freshId, ← hrow]
  refine (Script.exec_bind_of_ok (Database.exec_insert_next h.idle ?_)).trans ?_
  · rw [show state.unique = _ from h.unique, Database.Server.recordsOf_put,
      if_neg Database.applications_ne_chats]
    exact h.fresh_chat hnext hfound (objectId_idText r.ids h.next_lt) rfl rfl
  · rw [Script.exec_pure,
      toModel_chatRow (moment_now hcalendar).1 (moment_now hcalendar).1]

theorem Paired.agree_createChat (token : String)
    (hnext : Increasing r.ids (perform (moment r) (.createChat token) s).1.ids) :
    Agree policy r (.createChat token) s (state, s.ids) := by
  have hmemory := h.settled.perform_createChat (m := moment r) h.few token
  cases hfound : s.lookupApplication token with
  | error e =>
      rw [hfound] at hmemory
      obtain ⟨hnone, rfl⟩ := Memory.lookupApplication_eq_error.mp hfound
      obtain ⟨records, hinsert⟩ := h.exec_insertChat_of_missing hnone
      exact agree_of_look h hmemory
        (Database.exec_inTransaction_of_error h.idle (by simp) (.inr ⟨records, rfl⟩) hinsert)
  | ok found =>
      rw [hfound] at hmemory
      rw [hmemory] at hnext
      have hinsert := h.exec_insertChat hcalendar hnext (Memory.lookupApplication_eq_ok.mp hfound)
      exact agree_of_exec hmemory (Database.exec_inTransaction_of_ok h.idle hinsert)
        (h.simulates_link found.application)

theorem Paired.exec_removeChat (hfound : Keyed.get? token s.applications = some found)
    (hlink : Keyed.get? number found.chats = some record) :
    let chatId := objectId r.ids (s.chatAt record).chat.id
    let removed := Keyed.put Database.chats ((recordsOf Database.chats state.records).eraseP
      (isMatch (Database.chatIs (objectId r.ids found.application.id) number))) state.records
    let emptied := Keyed.put Database.messages ((recordsOf Database.messages removed).filter
      fun message => !isMatch (Database.inChat chatId) message) removed
    let lowered := (Keyed.update token (.removeLink (moment r) number
      (found.application.chatsCount - 1)) s.applications).map (applicationRecord r.ids)
    (Database.removeChat (objectId r.ids found.application.id) token number ⟨0⟩).exec r
      (state, s.ids) =
        (.ok (), begun state ⟨0⟩ (Keyed.put Database.applications lowered emptied), s.ids) := by
  intro chatId removed emptied lowered
  have hchat := h.find?_chat hfound number
  rw [hlink, Option.map_some] at hchat
  have hchange : Database.Server.changeFirst
      (isMatch (Database.idIs (objectId r.ids found.application.id)))
      (Database.Server.applyUpdate
        (Database.countersChange (Store.CounterUpdate.decrement .chats).increments r.ms))
      (recordsOf Database.applications emptied) = .ok lowered := by
    rw [Database.Server.recordsOf_put, if_neg Database.messages_ne_applications,
      Database.Server.recordsOf_put, if_neg Database.chats_ne_applications,
      show recordsOf _ state.records = _ from h.applications]
    exact Database.Server.changeFirst_map h.settled.shape.tokens hfound (h.isMatch_idIs hfound)
      (h.applyUpdate_removeLink hcalendar hfound)
  rw [Database.removeChat, Script.exec_bind_of_ok (Database.exec_removeAndReturn_first h.idle),
    hchat, rowOrError_chatRecord, Script.exec_bind_of_ok (Script.exec_ofExcept _)]
  obtain ⟨_, hremove⟩ := Database.exec_removeAll_next (r := r) h.idle s.ids ⟨0⟩ removed
    Database.messages (Database.inChat chatId)
  refine (Script.exec_bind_of_ok hremove).trans ?_
  rw [Script.exec_bind_of_ok Script.exec_clock]
  exact Database.exec_update_next h.idle hchange

theorem Paired.agree_deleteChat (token : String) (number : Int) :
    Agree policy r (.deleteChat token number) s (state, s.ids) := by
  have hmemory := h.settled.perform_deleteChat (m := moment r) h.few token number
  have happlication := h.exec_applicationRow token
  cases hfound : s.lookupApplication token with
  | error e =>
      rw [hfound] at hmemory happlication
      exact agree_of_look h hmemory (Script.exec_bind_of_error happlication)
  | ok found =>
      rw [hfound] at hmemory happlication
      have hget := Memory.lookupApplication_eq_ok.mp hfound
      have hunit := Script.exec_bind_of_ok (f := fun application =>
        Database.inTransaction policy (.application token)
          (Database.removeChat application.id token number)) happlication
      cases hlink : Keyed.get? number found.chats with
      | none =>
          simp only [hlink] at hmemory
          obtain ⟨records, hremove⟩ := h.exec_removeChat_of_missing hget hlink
          exact agree_of_look h hmemory <| hunit.trans <|
            Database.exec_inTransaction_of_error h.idle (by simp) (.inr ⟨records, rfl⟩) hremove
      | some record =>
          simp only [hlink] at hmemory
          have hremove := h.exec_removeChat hcalendar hget hlink
          exact agree_of_exec hmemory
            (hunit.trans (Database.exec_inTransaction_of_ok h.idle hremove))
            (h.simulates_remove hget hlink)

theorem Paired.exec_insertMessage (hnext : Increasing r.ids (s.ids + 1))
    (hfound : Keyed.get? token s.applications = some found)
    (hlink : Keyed.get? number found.chats = some record) (body : String) :
    let chat := (s.chatAt record).chat
    let next := chat.lastMessageNumber + 1
    let message := Memory.newMessage (moment r) (s.ids + 1) chat next body
    let raised := (Keyed.update record (.addMessage (moment r) next (chat.messagesCount + 1)
      message) (liveChats s)).map (chatRecord r.ids)
    (Database.insertMessage (objectId r.ids found.application.id) token number body ⟨0⟩).exec r
      (state, s.ids) =
        (.ok (message.renamed (renamedId r.ids)),
          begun state ⟨0⟩ (Keyed.put Database.messages
            (recordsOf Database.messages (Keyed.put Database.chats raised state.records) ++
              [messageRecord r.ids message])
            (Keyed.put Database.chats raised state.records)),
          s.ids + 1) := by
  intro chat next message raised
  obtain ⟨hchat, hlive⟩ :=
    h.settled.get?_chats (Memory.lookupChat_eq_ok.mpr ⟨found, hfound, hlink⟩)
  have hchange : Database.Server.changeFirst
      (isMatch (Database.chatIs (objectId r.ids found.application.id) number))
      (Database.Server.applyUpdate (Database.childAdded .messages "last_message_number" r.ms))
      (recordsOf Database.chats state.records) = .ok raised := by
    rw [show recordsOf _ state.records = _ from h.chats]
    exact Database.Server.changeFirst_map h.keys_liveChats (h.get?_liveChats hchat hlive)
      (h.isMatch_chatIs_of_link hfound hlink) (h.applyUpdate_addMessage hcalendar hchat hlive _)
  have hparent := h.find?_chat hfound number
  rw [hlink, Option.map_some] at hparent
  have hlast := (h.settled.shape.chat _ _ hchat).last_nonneg
  obtain ⟨-, -, hlt⟩ := h.settled.chat_in_range h.few hchat hlive
  have hnumber : Store.nextAfter chat.lastMessageNumber = .ok next :=
    Store.nextAfter_of_lt hlast hlt
  have hrow := messageRow_new hcalendar h.next_lt chat next body
  rw [Database.insertMessage, Script.exec_bind_of_ok Script.exec_clock, Script.exec_bind_of_ok
    (Database.exec_updateAndReturn_first h.idle hchange), hparent, rowOrError_chatRecord,
    Script.exec_bind_of_ok (Script.exec_ofExcept _)]
  dsimp only [chatRow]
  rw [hnumber, Script.exec_bind_of_ok (Script.exec_ofExcept _),
    Script.exec_bind_of_ok Script.exec_clock, Script.exec_bind_of_ok Script.exec_freshId, ← hrow]
  refine (Script.exec_bind_of_ok (Database.exec_insert_next h.idle ?_)).trans ?_
  · rw [show state.unique = _ from h.unique, Database.Server.recordsOf_put,
      if_neg Database.chats_ne_messages]
    exact h.fresh_message hnext hchat hlive (objectId_idText r.ids h.next_lt) rfl rfl
  · rw [Script.exec_pure,
      toModel_messageRow (moment_now hcalendar).1 (moment_now hcalendar).1]
    rfl

theorem Paired.agree_createMessage (token : String) (number : Int) (body : Option String)
    (hnext : Increasing r.ids (perform (moment r) (.createMessage token number body) s).1.ids) :
    Agree policy r (.createMessage token number body) s (state, s.ids) := by
  have hmemory := h.settled.perform_createMessage (m := moment r) h.few token number body
  have hdatabase : Database.script policy (.createMessage token number body) =
      (Script.ofExcept (Store.validateBody body) >>= fun body =>
        Database.applicationRow token >>= fun application =>
          Database.inTransaction policy (.chat token number)
            (Database.insertMessage application.id token number body)) := rfl
  cases hbody : Store.validateBody body with
  | error e =>
      rw [hbody] at hmemory hdatabase
      refine agree_of_look h hmemory ?_
      rw [hdatabase]
      exact Script.exec_bind_of_error (Script.exec_ofExcept _)
  | ok text =>
      simp only [hbody] at hmemory
      rw [hbody] at hdatabase
      have happlication := h.exec_applicationRow token
      cases hfound : s.lookupApplication token with
      | error e =>
          rw [hfound] at happlication
          simp only [Memory.State.lookupChat, hfound] at hmemory
          refine agree_of_look h hmemory ?_
          rw [hdatabase, Script.exec_bind_of_ok (Script.exec_ofExcept _)]
          exact Script.exec_bind_of_error happlication
      | ok found =>
          rw [hfound] at happlication
          have hget := Memory.lookupApplication_eq_ok.mp hfound
          cases hlink : Keyed.get? number found.chats with
          | none =>
              simp only [Memory.State.lookupChat, hfound, hlink] at hmemory
              obtain ⟨records, hinsert⟩ := h.exec_insertMessage_of_missing hget hlink text
              refine agree_of_look h hmemory ?_
              rw [hdatabase, Script.exec_bind_of_ok (Script.exec_ofExcept _),
                Script.exec_bind_of_ok happlication]
              exact Database.exec_inTransaction_of_error h.idle (by simp) (.inr ⟨records, rfl⟩)
                hinsert
          | some record =>
              have hrecord := Memory.lookupChat_eq_ok.mpr ⟨found, hget, hlink⟩
              obtain ⟨hchat, hlive⟩ := h.settled.get?_chats hrecord
              simp only [hrecord] at hmemory
              rw [hmemory] at hnext
              have hinsert := h.exec_insertMessage hcalendar hnext hget hlink text
              refine agree_of_exec hmemory ?_ (h.simulates_post hchat hlive rfl text)
              rw [hdatabase, Script.exec_bind_of_ok (Script.exec_ofExcept _),
                Script.exec_bind_of_ok happlication]
              exact Database.exec_inTransaction_of_ok h.idle hinsert

end Writes

end ChatService.Refinement
