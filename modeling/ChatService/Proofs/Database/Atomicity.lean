import ChatService.Proofs.Database.Faults
import ChatService.Proofs.Store.Counter
import Mathlib.Data.List.Nodup

/-!
# Operations of the store are atomic

`Done` says what each operation does to the records, and that it does nothing else: one unit of
work.  Whatever the server fails, an operation that answers did its unit of work, and an operation
that fails did nothing.
-/

namespace ChatService.Database

open Server (State Records recordsOf execute isMatch)
open Store (CounterUpdate Operation RetryPolicy)

/-! ## units of work -/

/-- No other collection has changed. -/
def SameExcept (collections : List String) (records records' : Records) : Prop :=
  ∀ collection ∉ collections, recordsOf collection records' = recordsOf collection records

theorem sameExcept_refl (collections : List String) (records : Records) :
    SameExcept collections records records := fun _ _ => rfl

/-- One of the collections is given other records. -/
theorem SameExcept.put {collections : List String} {collection : String}
    {records records' : Records} (h : SameExcept collections records records')
    (hmem : collection ∈ collections) (contents : List Record) :
    SameExcept collections records (Keyed.put collection contents records') := by
  intro other hother
  rw [Server.recordsOf_put, if_neg (by rintro rfl; exact hother hmem)]
  exact h other hother

/-- The row of an application that the database holds. -/
def HasApplication (records : Records) (row : ApplicationRow) : Prop :=
  ∃ record ∈ recordsOf applications records, Holds record row.toRecord

/-- No record of a collection has an id. -/
def IdFree (collection : String) (id : ObjectId) (records : Records) : Prop :=
  ∀ record ∈ recordsOf collection records, Keyed.get? "_id" record ≠ some (.objectId id)

/-- Operations that only look. -/
def looks : {α : Type} → Operation α → Bool
  | _, .createApplication _ | _, .createChat _ | _, .deleteChat _ _ | _, .createMessage .. => false
  | _, _ => true

/-- What an operation that answered has done to the records. -/
inductive Done : {α : Type} → Operation α → Records → Records → α → Prop where
  | look {α : Type} {operation : Operation α} {records : Records} {value : α}
      (hlooks : looks operation = true) : Done operation records records value
  /-- One application more. -/
  | createApplication {records records' : Records} {name : Option String} {text token : String}
      {id : ObjectId} {now : Int} (hname : Store.validateName name = .ok text)
      (hfresh : IdFree applications id records)
      (hadded : recordsOf applications records' =
        recordsOf applications records ++ [(newApplicationRow id token text now).toRecord])
      (hsame : SameExcept [applications] records records') :
      Done (.createApplication name) records records' (newApplicationRow id token text now).toModel
  /-- One chat more, under the next number of its application, which counts it. -/
  | createChat {records records' : Records} {row : ApplicationRow} {parent : Record}
      {before after : List Record} {id : ObjectId} (raised : Int) {now : Int}
      (hparent : Holds parent row.toRecord)
      (hbefore : recordsOf applications records = before ++ parent :: after)
      (hafter : recordsOf applications records' =
        before ++
          withChild .chats "last_chat_number" row.chatsCount row.lastChatNumber raised parent ::
            after)
      (hfresh : IdFree chats id records)
      (hadded : recordsOf chats records' =
        recordsOf chats records ++
          [(newChatRow id row.id (row.lastChatNumber + 1) now).toRecord])
      (hsame : SameExcept [applications, chats] records records') :
      Done (.createChat row.token) records records'
        (newChatRow id row.id (row.lastChatNumber + 1) now).toModel
  /-- One message more, under the next number of its chat, which counts it. -/
  | createMessage {records records' : Records} {application : ApplicationRow} {row : ChatRow}
      {parent : Record} {before after : List Record} {id : ObjectId} (raised : Int) {now : Int}
      {body : Option String} {text : String} (hbody : Store.validateBody body = .ok text)
      (happlication : HasApplication records application)
      (hhome : row.applicationId = application.id) (hparent : Holds parent row.toRecord)
      (hbefore : recordsOf chats records = before ++ parent :: after)
      (hafter : recordsOf chats records' =
        before ++
          withChild .messages "last_message_number" row.messagesCount row.lastMessageNumber raised
            parent :: after)
      (hfresh : IdFree messages id records)
      (hadded : recordsOf messages records' =
        recordsOf messages records ++
          [(newMessageRow id row.id (row.lastMessageNumber + 1) text now).toRecord])
      (hsame : SameExcept [chats, messages] records records') :
      Done (.createMessage application.token row.number body) records records'
        (newMessageRow id row.id (row.lastMessageNumber + 1) text now).toModel
  /-- One chat less, with all its messages, and its application counts one less. -/
  | deleteChat {records records' : Records} {application : ApplicationRow} {row : ChatRow}
      {parent chat : Record} {before after before' after' : List Record} (now : Int)
      (hparent : Holds parent application.toRecord) (hchat : Holds chat row.toRecord)
      (hhome : row.applicationId = application.id)
      (hbefore : recordsOf applications records = before ++ parent :: after)
      (hafter : recordsOf applications records' =
        before ++ withoutChild .chats application.chatsCount now parent :: after)
      (hbefore' : recordsOf chats records = before' ++ chat :: after')
      (hafter' : recordsOf chats records' = before' ++ after')
      (hmessages : recordsOf messages records' =
        (recordsOf messages records).filter fun message =>
          decide (Keyed.get? "chat_id" message ≠ some (.objectId row.id)))
      (hsame : SameExcept [applications, chats, messages] records records') :
      Done (.deleteChat application.token row.number) records records' ()

/-! ## records of the store -/

/-- Every record of the three collections holds a row, and no two applications share an id. -/
structure Stored (records : Records) : Prop where
  applications : ∀ record ∈ recordsOf applications records,
    ∃ row : ApplicationRow, Holds record row.toRecord
  chats : ∀ record ∈ recordsOf chats records, ∃ row : ChatRow, Holds record row.toRecord
  ids : ((recordsOf Database.applications records).map (Keyed.get? "_id")).Nodup

namespace Stored

variable {records : Records} (h : Stored records)
include h

/-- A record that is found by its token is read as the row it holds. -/
theorem rowOf_application {record : Record} {row : ApplicationRow}
    (hmem : record ∈ recordsOf Database.applications records)
    (hrow : rowOf ApplicationRow.ofRecord? record = .ok row) : Holds record row.toRecord := by
  obtain ⟨row', hholds⟩ := h.applications record hmem
  rw [rowOf, ApplicationRow.ofRecord?_of_holds hholds] at hrow
  obtain rfl := Except.ok.inj hrow
  exact hholds

theorem rowOf_chat {record : Record} {row : ChatRow}
    (hmem : record ∈ recordsOf Database.chats records)
    (hrow : rowOf ChatRow.ofRecord? record = .ok row) : Holds record row.toRecord := by
  obtain ⟨row', hholds⟩ := h.chats record hmem
  rw [rowOf, ChatRow.ofRecord?_of_holds hholds] at hrow
  obtain rfl := Except.ok.inj hrow
  exact hholds

end Stored

section Units

variable {s₀ : State} {session : Session}

/-- The application whose counters were raised. -/
theorem Stored.raised_application {records : Records} (h : Stored records) {token : String}
    {now : Int} {changed : List Record} {missing : StoreError} {row : ApplicationRow}
    (hchange : Server.changeFirst (isMatch (tokenIs token))
      (Server.applyUpdate (childAdded .chats "last_chat_number" now))
      (recordsOf Database.applications records) = .ok changed)
    (hrow : rowOrError ApplicationRow.ofRecord? missing
      ((recordsOf Database.applications records).find? (isMatch (tokenIs token))) = .ok row) :
    ∃ before parent after, recordsOf Database.applications records = before ++ parent :: after ∧
      Holds parent row.toRecord ∧ row.token = token ∧
      changed = before ++
        withChild .chats "last_chat_number" row.chatsCount row.lastChatNumber now parent ::
          after := by
  obtain ⟨before, parent, parent', after, hbefore, hmatch, hread, hraised, hchanged⟩ :=
    Server.changed_of_rowOrError hchange hrow
  have hparent := h.rowOf_application (by rw [hbefore]; simp) hread
  obtain ⟨-, htoken, hcount, hlast⟩ := ApplicationRow.fields_of_holds hparent
  obtain rfl := applyUpdate_childAdded (by decide) hcount hlast hraised
  rw [Server.isMatch_tokenIs.mp hmatch] at htoken
  exact ⟨before, parent, after, hbefore, hparent, by simpa [eq_comm] using htoken, hchanged⟩

/-- The chat whose counters were raised. -/
theorem Stored.raised_chat {records : Records} (h : Stored records) {applicationId : ObjectId}
    {number now : Int} {changed : List Record} {missing : StoreError} {row : ChatRow}
    (hchange : Server.changeFirst (isMatch (chatIs applicationId number))
      (Server.applyUpdate (childAdded .messages "last_message_number" now))
      (recordsOf Database.chats records) = .ok changed)
    (hrow : rowOrError ChatRow.ofRecord? missing
      ((recordsOf Database.chats records).find? (isMatch (chatIs applicationId number))) =
        .ok row) :
    ∃ before parent after, recordsOf Database.chats records = before ++ parent :: after ∧
      Holds parent row.toRecord ∧ row.applicationId = applicationId ∧ row.number = number ∧
      changed = before ++
        withChild .messages "last_message_number" row.messagesCount row.lastMessageNumber now
          parent :: after := by
  obtain ⟨before, parent, parent', after, hbefore, hmatch, hread, hraised, hchanged⟩ :=
    Server.changed_of_rowOrError hchange hrow
  have hparent := h.rowOf_chat (by rw [hbefore]; simp) hread
  obtain ⟨-, happlication, hnumber, hcount, hlast⟩ := ChatRow.fields_of_holds hparent
  obtain rfl := applyUpdate_childAdded (by decide) hcount hlast hraised
  obtain ⟨happlication', hnumber'⟩ := Server.isMatch_chatIs.mp hmatch
  rw [happlication'] at happlication
  rw [hnumber'] at hnumber
  exact ⟨before, parent, after, hbefore, hparent, by simpa [eq_comm] using happlication,
    by simpa [eq_comm] using hnumber, hchanged⟩

/-- What is left to do for a new child once the counters of its parent are raised. -/
def insertNext {α : Type} (session : Session) (last : Int) (collection : String)
    (child : ObjectId → Int → Int → Record) (value : ObjectId → Int → Int → α) : Script α := do
  let number ← Script.ofExcept (Store.nextAfter last)
  let now ← Script.asking .clock
  let id ← Script.asking .freshId
  Script.send (some session) (.insert collection (child id number now))
  return value id number now

theorem insertNext_pending {α : Type} {done : Records → α → Prop} {records : Records} {last : Int}
    {collection : String} {child : ObjectId → Int → Int → Record} {value : ObjectId → Int → Int → α}
    (hidle : s₀.transaction = none)
    (hdone : ∀ id now,
      (∀ other ∈ recordsOf collection records,
        Keyed.get? "_id" other ≠ Keyed.get? "_id" (child id (last + 1) now)) →
      done
        (Keyed.put collection (recordsOf collection records ++ [child id (last + 1) now]) records)
        (value id (last + 1) now)) :
    (insertNext session last collection child value).Ensures Faulted (Pending s₀ session done)
      (begun s₀ session records) := by
  refine Script.ensures_bind (Script.ensures_ofExcept ?_)
  cases hnumber : Store.nextAfter last with
  | error e => exact .inr ⟨_, rfl⟩
  | ok number =>
      obtain rfl := (Store.nextAfter_eq_ok hnumber).2
      refine Script.ensures_bind (Script.ensures_asking fun now s hclock => ?_)
      refine Script.ensures_bind (Script.ensures_asking fun id s' hid => ?_)
      obtain rfl := hclock
      obtain rfl := hid
      refine Script.ensures_bind
        (ensures_send_within hidle trivial (.inr ⟨_, rfl⟩) (fun _ _ hin => hin) ?_)
      intro records' _ hinsert
      obtain ⟨hfresh, rfl⟩ := insert_begun hinsert
      exact ⟨_, rfl, hdone id now hfresh⟩

/-- The counters of a parent are raised before anything else is done. -/
theorem raising_pending {ρ α : Type} {done : Records → α → Prop} {collection : String}
    {filter : Filter} {change : Int → Update} {ofRecord? : Record → Option ρ}
    {missing : StoreError} {rest : ρ → Script α} (hidle : s₀.transaction = none)
    (hrest : ∀ raised changed row,
      Server.changeFirst (isMatch filter) (Server.applyUpdate (change raised))
          (recordsOf collection s₀.records) = .ok changed →
        rowOrError ofRecord? missing ((recordsOf collection s₀.records).find? (isMatch filter)) =
            .ok row →
          (rest row).Ensures Faulted (Pending s₀ session done)
            (begun s₀ session (Keyed.put collection changed s₀.records))) :
    Script.Ensures Faulted (Pending s₀ session done)
      (do
        let raised ← Script.asking .clock
        let record ← Script.send (some session) (.updateAndReturn collection filter (change raised))
        let before ← Script.ofExcept (rowOrError ofRecord? missing record)
        rest before) s₀ := by
  refine Script.ensures_bind (Script.ensures_asking fun raised s hclock => ?_)
  obtain rfl : s = s₀ := hclock
  refine Script.ensures_bind (ensures_send_within hidle trivial (.inl rfl) (fun _ _ hin => hin) ?_)
  intro records₁ found hfound
  obtain ⟨changed, hchange, rfl, rfl⟩ := updateAndReturn_begun hfound
  refine Script.ensures_bind (Script.ensures_ofExcept ?_)
  split
  · next row hrow => exact hrest raised changed row hchange hrow
  · exact .inr ⟨_, rfl⟩

theorem insertChat_pending (hstored : Stored s₀.records) (hidle : s₀.transaction = none)
    (token : String) (session : Session) :
    (insertChat token session).Ensures Faulted
      (Pending s₀ session (Done (.createChat token) s₀.records)) s₀ := by
  refine raising_pending hidle fun raised changed row hchange hrow => ?_
  obtain ⟨before, parent, after, hbefore, hparent, rfl, hchanged⟩ :=
    hstored.raised_application hchange hrow
  refine insertNext_pending hidle fun id now hfresh => ?_
  refine .createChat raised hparent hbefore ?_ ?_ ?_ ?_
  · simp [Server.recordsOf_put, hchanged]
  · intro record hrecord
    exact hfresh record (by simpa [Server.recordsOf_put] using hrecord)
  · simp [Server.recordsOf_put]
  · exact ((sameExcept_refl _ _).put (by simp) _).put (by simp) _

theorem insertMessage_pending (hstored : Stored s₀.records) (hidle : s₀.transaction = none)
    {application : ApplicationRow} (happlication : HasApplication s₀.records application)
    {body : Option String} {text : String} (hbody : Store.validateBody body = .ok text)
    (number : Int) (session : Session) :
    (insertMessage application.id application.token number text session).Ensures Faulted
      (Pending s₀ session (Done (.createMessage application.token number body) s₀.records)) s₀ := by
  refine raising_pending hidle fun raised changed row hchange hrow => ?_
  obtain ⟨before, parent, after, hbefore, hparent, hhome, rfl, hchanged⟩ :=
    hstored.raised_chat hchange hrow
  refine insertNext_pending hidle fun id now hfresh => ?_
  refine .createMessage raised hbody happlication hhome hparent hbefore ?_ ?_ ?_ ?_
  · simp [Server.recordsOf_put, hchanged]
  · intro record hrecord
    exact hfresh record (by simpa [Server.recordsOf_put] using hrecord)
  · simp [Server.recordsOf_put]
  · exact ((sameExcept_refl _ _).put (by simp) _).put (by simp) _

/-- The application that counts one chat less is the one that was found before. -/
theorem Stored.lowered_application {records : Records} (h : Stored records)
    {application : ApplicationRow} (happlication : HasApplication records application)
    {now : Int} {changed : List Record}
    (hchange : Server.changeFirst (isMatch (idIs application.id))
      (Server.applyUpdate (countersChange (CounterUpdate.decrement .chats).increments now))
      (recordsOf Database.applications records) = .ok changed) :
    ∃ before parent after, recordsOf Database.applications records = before ++ parent :: after ∧
      Holds parent application.toRecord ∧
      changed = before ++ withoutChild .chats application.chatsCount now parent :: after := by
  obtain ⟨record, hmem, hholds⟩ := happlication
  obtain ⟨hid, -, hcount, -⟩ := ApplicationRow.fields_of_holds hholds
  rcases Server.changeFirst_eq_ok hchange with
    ⟨hnone, -⟩ | ⟨before, parent, parent', after, hbefore, hmatch, -, hlowered, hchanged⟩
  · have hno := List.find?_eq_none.mp hnone record hmem
    exact absurd (Server.isMatch_idIs.mpr hid) hno
  · -- The first record with the id is the one that was found, for no other one has its id.
    have hmem' : parent ∈ recordsOf Database.applications records := by rw [hbefore]; simp
    have hid' := Server.isMatch_idIs.mp hmatch
    obtain rfl := List.inj_on_of_nodup_map h.ids hmem' hmem (hid'.trans hid.symm)
    obtain rfl := applyUpdate_decrement hcount hlowered
    exact ⟨before, parent, after, hbefore, hholds, hchanged⟩

theorem removeChat_pending (hstored : Stored s₀.records) (hidle : s₀.transaction = none)
    {application : ApplicationRow} (happlication : HasApplication s₀.records application)
    (number : Int) (session : Session) :
    (removeChat application.id application.token number session).Ensures Faulted
      (Pending s₀ session (Done (.deleteChat application.token number) s₀.records)) s₀ := by
  refine Script.ensures_bind (ensures_send_within hidle trivial (.inl rfl) (fun _ _ hin => hin) ?_)
  intro records₁ found hfound
  obtain ⟨rfl, rfl⟩ := removeAndReturn_begun hfound
  refine Script.ensures_bind (Script.ensures_ofExcept ?_)
  split
  · next row hrow =>
      cases hchat : (recordsOf chats s₀.records).find?
          (isMatch (chatIs application.id number)) with
      | none => simp [hchat, rowOrError] at hrow
      | some chat =>
          have hholds := hstored.rowOf_chat (List.mem_of_find?_eq_some hchat) (hchat ▸ hrow)
          obtain ⟨-, hhome, hnumber, -⟩ := ChatRow.fields_of_holds hholds
          obtain ⟨hhome', hnumber'⟩ := Server.isMatch_chatIs.mp (List.find?_some hchat)
          obtain rfl : row.number = number := by simpa [hnumber] using hnumber'
          obtain ⟨before, after, hbefore, herased⟩ := Server.eraseP_of_find?_eq_some hchat
          refine Script.ensures_bind
            (ensures_send_within hidle trivial (.inr ⟨_, rfl⟩) (fun _ _ hin => hin) ?_)
          intro records₂ removed hremoved
          obtain rfl := removeAll_begun hremoved
          refine Script.ensures_bind (Script.ensures_asking fun now s hclock => ?_)
          obtain rfl := hclock
          refine ensures_send_within hidle trivial (.inr ⟨_, rfl⟩) (fun _ _ hin => hin) ?_
          intro records₃ _ hlowered
          obtain ⟨changed, hchange, rfl⟩ := update_begun hlowered
          simp only [begun_records, Server.recordsOf_put, messages_ne_applications,
            chats_ne_applications, if_false] at hchange
          obtain ⟨before', parent, after', hbefore', hparent, hchanged⟩ :=
            hstored.lowered_application happlication hchange
          refine ⟨_, rfl, .deleteChat now hparent hholds (by simpa [hhome] using hhome') hbefore' ?_
            hbefore ?_ ?_ ?_⟩
          · simp [Server.recordsOf_put, hchanged]
          · simp [Server.recordsOf_put, herased]
          · simp [Server.recordsOf_put, Server.not_isMatch_inChat]
          · exact (((sameExcept_refl _ _).put (by simp) _).put (by simp) _).put (by simp) _
  · exact .inr ⟨_, rfl⟩

end Units

/-! ## operations -/

section Operations

variable {s₀ : State} {policy : RetryPolicy}

/-- Looking for the application changes nothing, and what is found is there. -/
theorem applicationRow_atomic (hstored : Stored s₀.records) (token : String) :
    (applicationRow token).Ensures Faulted
      (fun s result => s = s₀ ∧
        ∀ row, result = .ok row → HasApplication s₀.records row ∧ row.token = token) s₀ := by
  refine Script.ensures_bind (ensures_send_look trivial rfl fun result hresult => ?_)
  cases result with
  | error e => exact ⟨rfl, by simp⟩
  | ok found =>
      refine Script.ensures_ofExcept ⟨rfl, fun row hrow => ?_⟩
      have hfound : (recordsOf applications s₀.records).find? (isMatch (tokenIs token)) = found :=
        Except.ok.inj (hresult found rfl)
      cases found with
      | none => simp [rowOrError] at hrow
      | some record =>
          have hmem := List.mem_of_find?_eq_some hfound
          have hholds := hstored.rowOf_application hmem hrow
          obtain ⟨-, htoken, -⟩ := ApplicationRow.fields_of_holds hholds
          rw [Server.isMatch_tokenIs.mp (List.find?_some hfound)] at htoken
          exact ⟨⟨record, hmem, hholds⟩, by simpa [eq_comm] using htoken⟩

theorem createApplication_atomic (name : Option String) :
    (createApplication policy name).Ensures Faulted
      (Atomic s₀ (Done (.createApplication name) s₀.records)) s₀ := by
  refine Script.ensures_bind (Script.ensures_ofExcept ?_)
  cases hname : Store.validateName name with
  | error e => exact .refl _
  | ok text =>
      refine ensures_attemptFrom (fun s => s = s₀) ?_ ?_ ?_ ?_ _ _ rfl
      · rintro s rfl
        refine Script.ensures_bind (Script.ensures_asking fun now s₁ hclock => ?_)
        refine Script.ensures_bind (Script.ensures_asking fun id s₂ hid => ?_)
        refine Script.ensures_bind (Script.ensures_asking fun token s₃ htoken => ?_)
        obtain rfl := hclock
        obtain rfl := hid
        obtain rfl := htoken
        refine Script.ensures_bind (Script.ensures_send fun answer s' hfaulted => ?_)
        obtain hinsert | ⟨rfl, f, rfl⟩ := faulted_send (by exact trivial) hfaulted
        · have hinsert : (s', answer) = Server.insert s₃ applications _ := hinsert
          cases answer with
          | error f => exact Server.insert_eq_error hinsert.symm
          | ok answer =>
              obtain ⟨hfresh, rfl⟩ := Server.insert_eq_ok hinsert.symm
              refine ⟨_, rfl, .createApplication hname hfresh ?_ ?_⟩
              · rw [Server.recordsOf_put, if_pos rfl]
              · exact (sameExcept_refl _ _).put (by simp) _
        · rfl
      · exact fun s detail hatomic => hatomic
      · rintro s length s' rfl hpause
        exact hpause
      · exact fun s attempt hs => hs

theorem asks_applicationRow (token : String) :
    (applicationRow token).run.Asks Ask.Looks :=
  Script.asks_bind (Script.asks_send trivial) fun _ => trivial

theorem asks_chatRow (token : String) (number : Int) :
    (chatRow token number).run.Asks Ask.Looks :=
  Script.asks_bind (asks_applicationRow token) fun _ =>
    Script.asks_bind (Script.asks_send trivial) fun _ => trivial

/-- The operations that only look ask for nothing else. -/
theorem asks_of_looks {α : Type} {operation : Operation α} (h : looks operation = true) :
    (program policy operation).Asks Ask.Looks := by
  cases operation with
  | createApplication | createChat | deleteChat | createMessage => contradiction
  | countApplications => exact Script.asks_send trivial
  | ping => exact Script.asks_send trivial
  | listApplications offset limit =>
      exact Script.asks_bind (Script.asks_send trivial) fun _ =>
        Script.asks_bind trivial fun _ => trivial
  | findApplication token => exact Script.asks_bind (asks_applicationRow token) fun _ => trivial
  | findChat token number => exact Script.asks_bind (asks_chatRow token number) fun _ => trivial
  | countChats token =>
      exact Script.asks_bind (asks_applicationRow token) fun _ => Script.asks_send trivial
  | listChats token offset limit =>
      exact Script.asks_bind (asks_applicationRow token) fun _ =>
        Script.asks_bind (Script.asks_send trivial) fun _ =>
          Script.asks_bind trivial fun _ => trivial
  | countMessages token number =>
      exact Script.asks_bind (asks_chatRow token number) fun _ => Script.asks_send trivial
  | listMessages token number offset limit =>
      exact Script.asks_bind (asks_chatRow token number) fun _ =>
        Script.asks_bind (Script.asks_send trivial) fun _ =>
          Script.asks_bind trivial fun _ => trivial

/-- **Every operation is atomic**: whatever the server fails, and however often the work is run
again, an operation that fails leaves the records as they were, and one that answers has done one
unit of work. -/
theorem program_ensures_atomic (hstored : Stored s₀.records) (hidle : s₀.transaction = none)
    {α : Type} (operation : Operation α) :
    (program policy operation).Ensures Faulted
      (Atomic s₀ (Done operation s₀.records)) s₀ := by
  cases operation with
  | createApplication name => exact createApplication_atomic name
  | createChat token =>
      exact inTransaction_atomic hidle (insertChat_pending hstored hidle token) _
  | deleteChat token number =>
      refine Script.ensures_bind ((applicationRow_atomic hstored token).imp ?_)
      rintro s (e | application) ⟨rfl, hfound⟩
      · exact .refl _
      · obtain ⟨happlication, rfl⟩ := hfound application rfl
        exact inTransaction_atomic hidle (removeChat_pending hstored hidle happlication number) _
  | createMessage token number body =>
      refine Script.ensures_bind (Script.ensures_ofExcept ?_)
      cases hbody : Store.validateBody body with
      | error e => exact .refl _
      | ok text =>
          refine Script.ensures_bind ((applicationRow_atomic hstored token).imp ?_)
          rintro s (e | application) ⟨rfl, hfound⟩
          · exact .refl _
          · obtain ⟨happlication, rfl⟩ := hfound application rfl
            exact inTransaction_atomic hidle
              (insertMessage_pending hstored hidle happlication hbody number) _
  | _ =>
      refine (ensures_of_looks (asks_of_looks rfl)).imp ?_
      rintro s (e | value) rfl
      · exact .refl _
      · exact ⟨s.records, rfl, .look rfl⟩

end Operations

end ChatService.Database
