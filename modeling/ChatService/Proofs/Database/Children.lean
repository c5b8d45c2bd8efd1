import ChatService.Proofs.Database.Atomicity
import ChatService.Proofs.Database.Execution

/-!
# Children of parents with any counters

What adding a child does when nothing fails, whatever the counters of the parent hold.  The server
adds first, and refuses sums that are no signed 64-bit numbers; the number that was handed out is
looked at afterwards, and the index refuses one that is taken.  Chats of applications and messages
of chats are added alike.
-/

namespace ChatService.Database

open Server (State Records recordsOf isMatch sameKey)
open Store (CounterField CounterUpdate RetryPolicy Scope nextAfter)

variable {ρ α : Type}

/-! ## records with other counters -/

/-- A record with another count of children. -/
def withCount (field : CounterField) (count now : Int) (record : Record) : Record :=
  Keyed.put "updated_at" (.time now) (Keyed.put field.name (.long count) record)

/-- A record with another count of children and another last number. -/
def withCounters (field : CounterField) (lastNumber : String) (count number now : Int)
    (record : Record) : Record :=
  Keyed.put "updated_at" (.time now) <|
    Keyed.put lastNumber (.long number) (Keyed.put field.name (.long count) record)

/-- What a refused sum is told as. -/
theorem toStoreError_badValue :
    (Server.commandFailure Server.badValue).toStoreError = .database "" := rfl

/-! ## a child with the next number -/

section InsertNext

variable {r : Reading} {s₀ : State} {session : Session} {records : Records} {n : Nat} {last : Int}
  {collection : String} {child : ObjectId → Int → Int → Record} {value : ObjectId → Int → Int → α}
  {number : Int}

theorem exec_insertNext_of_error {e : StoreError} (t : State × Nat)
    (he : nextAfter last = .error e) :
    (insertNext session last collection child value).exec r t = (.error e, t) :=
  Script.exec_bind_of_error (by rw [Script.exec_ofExcept, he])

/-- Once there is a number, the child is made of it, of the time, and of a fresh id. -/
theorem exec_insertNext_of_ok (hnumber : nextAfter last = .ok number) (s : State) :
    (insertNext session last collection child value).exec r (s, n) =
      (do Script.send (some session) (.insert collection (child (r.ids (n + 1)) number r.ms))
          return value (r.ids (n + 1)) number r.ms : Script α).exec r (s, n + 1) := by
  refine (Script.exec_bind_of_ok (by rw [Script.exec_ofExcept, hnumber])).trans ?_
  refine (Script.exec_bind_of_ok Script.exec_clock).trans ?_
  exact Script.exec_bind_of_ok Script.exec_freshId

theorem exec_insertNext_of_fresh (hidle : s₀.transaction = none)
    (hnumber : nextAfter last = .ok number)
    (hfresh : ∀ other ∈ recordsOf collection records,
      ∀ key ∈ ["_id"] :: (Keyed.get? collection s₀.unique).getD [],
        sameKey key other (child (r.ids (n + 1)) number r.ms) = false) :
    (insertNext session last collection child value).exec r (begun s₀ session records, n) =
      (.ok (value (r.ids (n + 1)) number r.ms),
        begun s₀ session (Keyed.put collection
          (recordsOf collection records ++ [child (r.ids (n + 1)) number r.ms]) records), n + 1) :=
  (exec_insertNext_of_ok hnumber _).trans <|
    Script.exec_bind_of_ok (exec_insert_next hidle hfresh)

theorem exec_insertNext_of_taken {other : Record} {key : List String}
    (hidle : s₀.transaction = none) (hnumber : nextAfter last = .ok number)
    (hother : other ∈ recordsOf collection records)
    (hkey : key ∈ ["_id"] :: (Keyed.get? collection s₀.unique).getD [])
    (hsame : sameKey key other (child (r.ids (n + 1)) number r.ms) = true) :
    (insertNext session last collection child value).exec r (begun s₀ session records, n) =
      (.error (.writeConflict ""), begun s₀ session records, n + 1) :=
  (exec_insertNext_of_ok hnumber _).trans <|
    Script.exec_bind_of_error (exec_insert_of_taken hidle hother hkey hsame)

end InsertNext

/-! ## kinds of children -/

/-- A kind of children: where they and their parents are stored, and how they are made. -/
structure Kind (ρ α : Type) where
  scope : Scope
  parents : String
  filter : Filter
  ofRecord? : Record → Option ρ
  missing : StoreError
  field : CounterField
  lastNumber : String
  id : ρ → ObjectId
  last : ρ → Int
  children : String
  /-- The field of a child that names its parent. -/
  parentField : String
  child : ρ → ObjectId → Int → Int → Record
  value : ρ → ObjectId → Int → Int → α
  fields_ne : field.name ≠ lastNumber := by decide
  collections_ne : parents ≠ children := by decide
  child_id : ∀ row id number now, Keyed.get? "_id" (child row id number now) =
    some (.objectId id) := by intros; rfl
  child_parent : ∀ row i number now, Keyed.get? parentField (child row i number now) =
    some (.objectId (id row)) := by intros; rfl
  child_number : ∀ row id number now, Keyed.get? "number" (child row id number now) =
    some (.long number) := by intros; rfl

/-- The chats of an application. -/
def chatKind (token : String) : Kind ApplicationRow Store.Chat where
  scope := .application token
  parents := applications
  filter := tokenIs token
  ofRecord? := ApplicationRow.ofRecord?
  missing := .applicationNotFound token
  field := .chats
  lastNumber := "last_chat_number"
  id := (·.id)
  last := (·.lastChatNumber)
  children := chats
  parentField := "application_id"
  child row id number now := (newChatRow id row.id number now).toRecord
  value row id number now := (newChatRow id row.id number now).toModel

/-- The messages of a chat. -/
def messageKind (applicationId : ObjectId) (token : String) (number : Int) (body : String) :
    Kind ChatRow Store.Message where
  scope := .chat token number
  parents := chats
  filter := chatIs applicationId number
  ofRecord? := ChatRow.ofRecord?
  missing := .chatNotFound token number
  field := .messages
  lastNumber := "last_message_number"
  id := (·.id)
  last := (·.lastMessageNumber)
  children := messages
  parentField := "chat_id"
  child row id next now := (newMessageRow id row.id next body now).toRecord
  value row id next now := (newMessageRow id row.id next body now).toModel

namespace Kind

/-- The unit of work that adds a child. -/
def adding (k : Kind ρ α) (session : Session) : Script α := do
  let raised ← Script.asking .clock
  let record ← Script.send (some session) <|
    .updateAndReturn k.parents k.filter (childAdded k.field k.lastNumber raised)
  let before ← Script.ofExcept (rowOrError k.ofRecord? k.missing record)
  insertNext session (k.last before) k.children (k.child before) (k.value before)

theorem insertChat_eq (token : String) : insertChat token = (chatKind token).adding := rfl

theorem insertMessage_eq (applicationId : ObjectId) (token : String) (number : Int)
    (body : String) :
    insertMessage applicationId token number body =
      (messageKind applicationId token number body).adding := rfl

variable (k : Kind ρ α)

/-- A server without a transaction on which the parent is found, with its count of children, and
the numbers of children are unique. -/
structure Finds (s : State) (parent : Record) (row : ρ) (count : Int) : Prop where
  idle : s.transaction = none
  unique : Keyed.get? k.children s.unique = some [[k.parentField, "number"]]
  found : (recordsOf k.parents s.records).find? (isMatch k.filter) = some parent
  read : k.ofRecord? parent = some row
  count : Keyed.get? k.field.name parent = some (.long count)
  last : Keyed.get? k.lastNumber parent = some (.long (k.last row))

/-- A child of the parent has the number already. -/
def Taken (records : Records) (row : ρ) (number : Int) : Prop :=
  ∃ other ∈ recordsOf k.children records,
    Keyed.get? k.parentField other = some (.objectId (k.id row)) ∧
      Keyed.get? "number" other = some (.long number)

/-- One child more, and a parent with other counters. -/
structure Added (parent : Record) (row : ρ) (count number now : Int) (id : ObjectId)
    (records records' : Records) : Prop where
  raised : ∃ before after, recordsOf k.parents records = before ++ parent :: after ∧
    recordsOf k.parents records' =
      before ++ withCounters k.field k.lastNumber count number now parent :: after
  added : recordsOf k.children records' =
    recordsOf k.children records ++ [k.child row id number now]
  same : SameExcept [k.parents, k.children] records records'

section Exec

variable {k} {r : Reading} {policy : RetryPolicy} {s : State} {n : Nat} {parent : Record} {row : ρ}
  {count number : Int}

/-- The change of the parent, if the server makes it. -/
theorem Finds.applyUpdate_eq (h : k.Finds s parent row count) (now : Int) :
    Server.applyUpdate (childAdded k.field k.lastNumber now) parent =
      if Word.IsInt64 (count + 1) ∧ Word.IsInt64 (k.last row + 1) then
        .ok (withCounters k.field k.lastNumber (count + 1) (k.last row + 1) now parent)
      else .error (Server.commandFailure Server.badValue) :=
  applyUpdate_childAdded_eq now k.fields_ne h.count h.last

/-- A sum that is out of range is refused by the server, and nothing is changed. -/
theorem Finds.exec_of_not_range (h : k.Finds s parent row count)
    (hrange : ¬ (Word.IsInt64 (count + 1) ∧ Word.IsInt64 (k.last row + 1))) :
    (inTransaction policy k.scope k.adding).exec r (s, n) = (.error (.database ""), s, n) := by
  have hupdate := h.applyUpdate_eq r.ms
  rw [if_neg hrange] at hupdate
  have hchange := Server.changeFirst_of_error h.found hupdate
  refine exec_inTransaction_of_error h.idle (by simp) (.inr ⟨s.records, rfl⟩) ?_
  refine (Script.exec_bind_of_ok Script.exec_clock).trans ?_
  rw [← toStoreError_badValue]
  exact Script.exec_bind_of_error (exec_updateAndReturn_of_error h.idle hchange)

/-- Otherwise the unit of work goes on with the number that was handed out. -/
theorem Finds.exec_adding (h : k.Finds s parent row count)
    (hrange : Word.IsInt64 (count + 1) ∧ Word.IsInt64 (k.last row + 1)) :
    ∃ raised,
      (∃ before after, recordsOf k.parents s.records = before ++ parent :: after ∧
        raised = before ++
          withCounters k.field k.lastNumber (count + 1) (k.last row + 1) r.ms parent :: after) ∧
      ∀ n, (k.adding ⟨0⟩).exec r (s, n) =
        (insertNext ⟨0⟩ (k.last row) k.children (k.child row) (k.value row)).exec r
          (begun s ⟨0⟩ (Keyed.put k.parents raised s.records), n) := by
  have hupdate := h.applyUpdate_eq r.ms
  rw [if_pos hrange] at hupdate
  obtain ⟨before, after, hbefore, hchange⟩ := Server.changeFirst_of_find?_eq_some h.found hupdate
  refine ⟨_, ⟨before, after, hbefore, rfl⟩, fun n => ?_⟩
  refine (Script.exec_bind_of_ok Script.exec_clock).trans ?_
  refine (Script.exec_bind_of_ok (exec_updateAndReturn_first h.idle hchange)).trans ?_
  refine Script.exec_bind_of_ok ?_
  rw [h.found, Script.exec_ofExcept, rowOrError, rowOf, h.read]

/-- A counter from which no number can be handed out is seen after the sums, and all is undone. -/
theorem Finds.exec_of_nextAfter_error (h : k.Finds s parent row count)
    (hrange : Word.IsInt64 (count + 1) ∧ Word.IsInt64 (k.last row + 1)) {e : StoreError}
    (he : nextAfter (k.last row) = .error e) :
    (inTransaction policy k.scope k.adding).exec r (s, n) = (.error e, s, n) := by
  obtain ⟨raised, -, hadding⟩ := h.exec_adding (r := r) hrange
  have hconflict : ∀ detail, e ≠ .writeConflict detail := by
    rintro detail rfl
    exact Store.nextAfter_ne_writeConflict _ _ he
  exact exec_inTransaction_of_error h.idle hconflict (.inr ⟨_, rfl⟩)
    ((hadding n).trans (exec_insertNext_of_error _ he))

/-- A child has a key of its own if its id is fresh and its number is not taken. -/
theorem Finds.fresh (h : k.Finds s parent row count) {id : ObjectId} (now : Int)
    {records : Records} (hchildren : recordsOf k.children records = recordsOf k.children s.records)
    (hid : IdFree k.children id s.records) (hfree : ¬ k.Taken s.records row number) :
    ∀ other ∈ recordsOf k.children records,
      ∀ key ∈ ["_id"] :: (Keyed.get? k.children s.unique).getD [],
        sameKey key other (k.child row id number now) = false := by
  rw [h.unique, hchildren]
  refine Server.sameKey_eq_false_of_ne (fun other hother => ?_) (fun other hother => ?_)
  · rw [k.child_id]
    exact hid other hother
  · by_cases hparent : Keyed.get? k.parentField other = some (.objectId (k.id row))
    · refine ⟨"number", by simp, ?_⟩
      rw [k.child_number]
      exact fun hnumber => hfree ⟨other, hother, hparent, hnumber⟩
    · refine ⟨k.parentField, by simp, ?_⟩
      rwa [k.child_parent]

/-- A number that is not taken goes to the child, and the counters keep what was added. -/
theorem Finds.exec_of_free (h : k.Finds s parent row count) (policy : RetryPolicy)
    (hrange : Word.IsInt64 (count + 1) ∧ Word.IsInt64 (k.last row + 1))
    (hnumber : nextAfter (k.last row) = .ok number)
    (hid : IdFree k.children (r.ids (n + 1)) s.records) (hfree : ¬ k.Taken s.records row number) :
    ∃ records, (inTransaction policy k.scope k.adding).exec r (s, n) =
        (.ok (k.value row (r.ids (n + 1)) number r.ms), { s with records }, n + 1) ∧
      k.Added parent row (count + 1) number r.ms (r.ids (n + 1)) s.records records := by
  obtain ⟨raised, ⟨before, after, hbefore, hraised⟩, hadding⟩ := h.exec_adding (r := r) hrange
  have hchildren : recordsOf k.children (Keyed.put k.parents raised s.records) =
      recordsOf k.children s.records := by
    rw [Server.recordsOf_put, if_neg k.collections_ne]
  have hfresh := h.fresh r.ms hchildren hid hfree
  have hwork := (hadding n).trans (exec_insertNext_of_fresh h.idle hnumber hfresh)
  refine ⟨_, exec_inTransaction_of_ok h.idle hwork, ?_⟩
  obtain rfl := (Store.nextAfter_eq_ok hnumber).2
  refine { raised := ⟨before, after, hbefore, ?_⟩, added := ?_, same := ?_ }
  · rw [Server.recordsOf_put, if_neg k.collections_ne.symm, Server.recordsOf_put, if_pos rfl,
      hraised]
  · rw [Server.recordsOf_put, if_pos rfl, hchildren]
  · exact ((sameExcept_refl _ _).put (by simp) _).put (by simp) _

/-- A number that is taken is refused in every attempt. -/
theorem Finds.exec_of_taken (h : k.Finds s parent row count)
    (hrange : Word.IsInt64 (count + 1) ∧ Word.IsInt64 (k.last row + 1))
    (hnumber : nextAfter (k.last row) = .ok number) (htaken : k.Taken s.records row number) :
    (inTransaction policy k.scope k.adding).exec r (s, n) =
      (.error (RetryPolicy.exhausted ("number allocation for " ++ k.scope.name)
        (max 1 policy.maxAttempts)), s, n + max 1 policy.maxAttempts) := by
  obtain ⟨raised, -, hadding⟩ := h.exec_adding (r := r) hrange
  obtain ⟨other, hother, hparent, hsame⟩ := htaken
  have hother' : other ∈ recordsOf k.children (Keyed.put k.parents raised s.records) := by
    rwa [Server.recordsOf_put, if_neg k.collections_ne]
  have hkey : [k.parentField, "number"] ∈ ["_id"] :: (Keyed.get? k.children s.unique).getD [] := by
    simp [h.unique]
  have hconflict : ∀ id now,
      sameKey [k.parentField, "number"] other (k.child row id number now) = true := fun id now => by
    simp [sameKey, k.child_parent, k.child_number, hparent, hsame]
  exact exec_inTransaction_of_conflicts h.idle (fun _ => .inr ⟨_, rfl⟩) fun n =>
    (hadding n).trans (exec_insertNext_of_taken h.idle hnumber hother' hkey (hconflict _ _))

/-- How the addition of a child may end. -/
inductive Outcome (k : Kind ρ α) (policy : RetryPolicy) (r : Reading) (s : State) (n : Nat)
    (parent : Record) (row : ρ) (count : Int) : Except StoreError α × State × Nat → Prop where
  | refused (hrange : ¬ (Word.IsInt64 (count + 1) ∧ Word.IsInt64 (k.last row + 1))) :
      Outcome k policy r s n parent row count (.error (.database ""), s, n)
  | unnumbered {e : StoreError} (hrange : Word.IsInt64 (count + 1))
      (he : nextAfter (k.last row) = .error e) :
      Outcome k policy r s n parent row count (.error e, s, n)
  | taken {number : Int} (hrange : Word.IsInt64 (count + 1))
      (hnumber : nextAfter (k.last row) = .ok number) (htaken : k.Taken s.records row number) :
      Outcome k policy r s n parent row count
        (.error (RetryPolicy.exhausted ("number allocation for " ++ k.scope.name)
          (max 1 policy.maxAttempts)), s, n + max 1 policy.maxAttempts)
  | added {number : Int} {records : Records} (hrange : Word.IsInt64 (count + 1))
      (hnumber : nextAfter (k.last row) = .ok number) (hfree : ¬ k.Taken s.records row number)
      (hadded : k.Added parent row (count + 1) number r.ms (r.ids (n + 1)) s.records records) :
      Outcome k policy r s n parent row count
        (.ok (k.value row (r.ids (n + 1)) number r.ms), { s with records }, n + 1)

/-- **What adding a child comes to**, by the counters of its parent and the number's siblings. -/
theorem Finds.outcome (h : k.Finds s parent row count)
    (hids : ∀ i, IdFree k.children (r.ids i) s.records) :
    k.Outcome policy r s n parent row count
      ((inTransaction policy k.scope k.adding).exec r (s, n)) := by
  by_cases hrange : Word.IsInt64 (count + 1) ∧ Word.IsInt64 (k.last row + 1)
  · cases hnumber : nextAfter (k.last row) with
    | error e =>
        rw [h.exec_of_nextAfter_error hrange hnumber]
        exact .unnumbered hrange.1 hnumber
    | ok number =>
        by_cases htaken : k.Taken s.records row number
        · rw [h.exec_of_taken hrange hnumber htaken]
          exact .taken hrange.1 hnumber htaken
        · obtain ⟨records, hexec, hadded⟩ :=
            h.exec_of_free policy hrange hnumber (hids (n + 1)) htaken
          rw [hexec]
          exact .added hrange.1 hnumber htaken hadded
  · rw [h.exec_of_not_range hrange]
    exact .refused hrange

end Exec

end Kind

/-! ## a chat that is deleted -/

section Remove

variable {r : Reading} {policy : RetryPolicy} {s : State} {n : Nat} {parent chatRecord : Record}
  {application : ApplicationRow} {chat : ChatRow} {token : String} {number : Int}

/-- A server without a transaction on which a chat is found, and its application by its id. -/
structure FindsChat (s : State) (parent : Record) (application : ApplicationRow)
    (number : Int) (chatRecord : Record) (chat : ChatRow) : Prop where
  idle : s.transaction = none
  home : (recordsOf applications s.records).find? (isMatch (idIs application.id)) = some parent
  count : Keyed.get? CounterField.chats.name parent = some (.long application.chatsCount)
  found : (recordsOf chats s.records).find? (isMatch (chatIs application.id number)) =
    some chatRecord
  read : ChatRow.ofRecord? chatRecord = some chat

/-- A chat less, none of its messages, and an application with another count. -/
structure ChatRemoved (parent : Record) (applicationId : ObjectId) (number : Int) (chat : ChatRow)
    (count now : Int) (records records' : Records) : Prop where
  lowered : ∃ before after, recordsOf applications records = before ++ parent :: after ∧
    recordsOf applications records' = before ++ withCount .chats count now parent :: after
  removed : recordsOf chats records' =
    (recordsOf chats records).eraseP (isMatch (chatIs applicationId number))
  emptied : recordsOf messages records' =
    (recordsOf messages records).filter fun message => !isMatch (inChat chat.id) message
  same : SameExcept [applications, chats, messages] records records'

/-- The records without a chat and its messages. -/
def withoutChat (applicationId : ObjectId) (number : Int) (chat : ChatRow) (records : Records) :
    Records :=
  let removed := Keyed.put chats
    ((recordsOf chats records).eraseP (isMatch (chatIs applicationId number))) records
  Keyed.put messages
    ((recordsOf messages removed).filter fun message => !isMatch (inChat chat.id) message) removed

theorem recordsOf_applications_withoutChat (applicationId : ObjectId) (number : Int)
    (chat : ChatRow) (records : Records) :
    recordsOf applications (withoutChat applicationId number chat records) =
      recordsOf applications records := by
  unfold withoutChat
  rw [Server.recordsOf_put, if_neg messages_ne_applications, Server.recordsOf_put,
    if_neg chats_ne_applications]

/-- What is left to do once the chat and its messages are removed: the application counts. -/
theorem FindsChat.exec_removeChat (h : FindsChat s parent application number chatRecord chat)
    (token : String) :
    (removeChat application.id token number ⟨0⟩).exec r (s, n) =
      (Script.send (some ⟨0⟩) <| .update applications (idIs application.id) <|
        countersChange (CounterUpdate.decrement .chats).increments r.ms).exec r
          (begun s ⟨0⟩ (withoutChat application.id number chat s.records), n) := by
  have hread : rowOrError ChatRow.ofRecord? (.chatNotFound token number)
      ((recordsOf chats s.records).find? (isMatch (chatIs application.id number))) = .ok chat := by
    rw [h.found, rowOrError, rowOf, h.read]
  obtain ⟨removed, hremoved⟩ := exec_removeAll_next (r := r) h.idle n ⟨0⟩
    (Keyed.put chats ((recordsOf chats s.records).eraseP
      (isMatch (chatIs application.id number))) s.records) messages (inChat chat.id)
  refine (Script.exec_bind_of_ok (exec_removeAndReturn_first h.idle)).trans ?_
  refine (Script.exec_bind_of_ok (by rw [Script.exec_ofExcept, hread])).trans ?_
  refine (Script.exec_bind_of_ok hremoved).trans ?_
  exact Script.exec_bind_of_ok Script.exec_clock

/-- **What deleting a chat comes to**, by the count of its application. -/
theorem FindsChat.exec (h : FindsChat s parent application number chatRecord chat)
    (policy : RetryPolicy) (r : Reading) (n : Nat) (token : String) :
    (¬ Word.IsInt64 (application.chatsCount - 1) ∧
      (inTransaction policy (.application token) (removeChat application.id token number)).exec r
        (s, n) = (.error (.database ""), s, n)) ∨
    Word.IsInt64 (application.chatsCount - 1) ∧ ∃ records,
      (inTransaction policy (.application token) (removeChat application.id token number)).exec r
        (s, n) = (.ok (), { s with records }, n) ∧
      ChatRemoved parent application.id number chat (application.chatsCount - 1) r.ms s.records
        records := by
  have hupdate := applyUpdate_decrement_eq r.ms h.count
  have hfind := h.home
  rw [← recordsOf_applications_withoutChat application.id number chat] at hfind
  by_cases hrange : Word.IsInt64 (application.chatsCount - 1)
  · rw [if_pos hrange] at hupdate
    obtain ⟨before, after, hbefore, hchange⟩ :=
      Server.changeFirst_of_find?_eq_some hfind hupdate
    have hwork := (h.exec_removeChat token).trans
      (exec_update_next (r := r) (n := n) h.idle hchange)
    refine .inr ⟨hrange, _, exec_inTransaction_of_ok h.idle hwork, ?_⟩
    rw [recordsOf_applications_withoutChat] at hbefore
    refine { lowered := ⟨before, after, hbefore, ?_⟩, removed := ?_, emptied := ?_, same := ?_ }
    · rw [Server.recordsOf_put, if_pos rfl]
      rfl
    · unfold withoutChat
      simp [Server.recordsOf_put]
    · unfold withoutChat
      simp [Server.recordsOf_put]
    · exact (((sameExcept_refl _ _).put (by simp) _).put (by simp) _).put (by simp) _
  · rw [if_neg hrange] at hupdate
    have hchange := Server.changeFirst_of_error hfind hupdate
    have hwork := (h.exec_removeChat token).trans
      (exec_update_of_error (r := r) (n := n) h.idle hchange)
    exact .inl ⟨hrange, exec_inTransaction_of_error h.idle (by simp)
      (.inr ⟨_, rfl⟩) hwork⟩

end Remove

end ChatService.Database
