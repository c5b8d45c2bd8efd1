import ChatService.Database.Server
import ChatService.Database.Store
import ChatService.Proofs.Keyed

/-!
# Records and what commands do to them

A record holds a row if it has the row's fields, whatever their order and whatever other fields
there are.  Reading such a record gives the row back, and the changes that the store makes are
changes of single fields.
-/

namespace ChatService.Database

open Store (CounterField CounterUpdate)

@[simp] theorem applications_ne_chats : applications ≠ chats := by decide

@[simp] theorem applications_ne_messages : applications ≠ messages := by decide

@[simp] theorem chats_ne_messages : chats ≠ messages := by decide

@[simp] theorem chats_ne_applications : chats ≠ applications := by decide

@[simp] theorem messages_ne_applications : messages ≠ applications := by decide

@[simp] theorem messages_ne_chats : messages ≠ chats := by decide

/-- The record has all these fields, with these values. -/
def Holds (record fields : Record) : Prop :=
  ∀ entry ∈ fields, Keyed.get? entry.1 record = some entry.2

/-- A record in which no field stands twice holds its own fields. -/
theorem holds_self {record : Record} (h : (Keyed.keys record).Nodup) : Holds record record :=
  fun _ hentry => (Keyed.get?_eq_some_iff_mem h).mpr hentry

theorem ApplicationRow.holds_toRecord (row : ApplicationRow) :
    Holds row.toRecord row.toRecord := holds_self <| by
  simp [toRecord]

theorem ChatRow.holds_toRecord (row : ChatRow) : Holds row.toRecord row.toRecord :=
  holds_self <| by simp [toRecord]

theorem MessageRow.holds_toRecord (row : MessageRow) : Holds row.toRecord row.toRecord :=
  holds_self <| by simp [toRecord]

/-- The fields of a record that holds an application, as far as the store looks for them. -/
theorem ApplicationRow.fields_of_holds {record : Record} {row : ApplicationRow}
    (h : Holds record row.toRecord) :
    Keyed.get? "_id" record = some (.objectId row.id) ∧
      Keyed.get? "token" record = some (.text row.token) ∧
      Keyed.get? CounterField.chats.name record = some (.long row.chatsCount) ∧
      Keyed.get? "last_chat_number" record = some (.long row.lastChatNumber) := by
  simp only [Holds, toRecord, List.forall_mem_cons] at h
  exact ⟨h.1, h.2.1, h.2.2.2.1, h.2.2.2.2.1⟩

theorem ApplicationRow.ofRecord?_of_holds {record : Record} {row : ApplicationRow}
    (h : Holds record row.toRecord) : ofRecord? record = some row := by
  simp only [Holds, toRecord, List.forall_mem_cons, List.not_mem_nil, false_implies,
    implies_true, and_true] at h
  obtain ⟨hid, htoken, hname, hcount, hlast, hcreated, hupdated⟩ := h
  simp [ofRecord?, field?, hid, htoken, hname, hcount, hlast, hcreated, hupdated, Value.id?,
    Value.text?, Value.integer?, Value.time?]

@[inherit_doc ApplicationRow.fields_of_holds]
theorem ChatRow.fields_of_holds {record : Record} {row : ChatRow}
    (h : Holds record row.toRecord) :
    Keyed.get? "_id" record = some (.objectId row.id) ∧
      Keyed.get? "application_id" record = some (.objectId row.applicationId) ∧
      Keyed.get? "number" record = some (.long row.number) ∧
      Keyed.get? CounterField.messages.name record = some (.long row.messagesCount) ∧
      Keyed.get? "last_message_number" record = some (.long row.lastMessageNumber) := by
  simp only [Holds, toRecord, List.forall_mem_cons] at h
  exact ⟨h.1, h.2.1, h.2.2.1, h.2.2.2.1, h.2.2.2.2.1⟩

theorem ChatRow.ofRecord?_of_holds {record : Record} {row : ChatRow}
    (h : Holds record row.toRecord) : ofRecord? record = some row := by
  simp only [Holds, toRecord, List.forall_mem_cons, List.not_mem_nil, false_implies,
    implies_true, and_true] at h
  obtain ⟨hid, happlication, hnumber, hcount, hlast, hcreated, hupdated⟩ := h
  simp [ofRecord?, field?, hid, happlication, hnumber, hcount, hlast, hcreated, hupdated,
    Value.id?, Value.integer?, Value.time?]

@[inherit_doc ApplicationRow.fields_of_holds]
theorem MessageRow.fields_of_holds {record : Record} {row : MessageRow}
    (h : Holds record row.toRecord) :
    Keyed.get? "_id" record = some (.objectId row.id) ∧
      Keyed.get? "chat_id" record = some (.objectId row.chatId) ∧
      Keyed.get? "number" record = some (.long row.number) := by
  simp only [Holds, toRecord, List.forall_mem_cons] at h
  exact ⟨h.1, h.2.1, h.2.2.1⟩

theorem MessageRow.ofRecord?_of_holds {record : Record} {row : MessageRow}
    (h : Holds record row.toRecord) : ofRecord? record = some row := by
  simp only [Holds, toRecord, List.forall_mem_cons, List.not_mem_nil, false_implies,
    implies_true, and_true] at h
  obtain ⟨hid, hchat, hnumber, hbody, hcreated, hupdated⟩ := h
  simp [ofRecord?, field?, hid, hchat, hnumber, hbody, hcreated, hupdated, Value.id?,
    Value.text?, Value.integer?, Value.time?]

/-! ## filters -/

namespace Server

theorem isMatch_tokenIs {token : String} {record : Record} :
    isMatch (tokenIs token) record = true ↔ Keyed.get? "token" record = some (.text token) := by
  cases h : Keyed.get? "token" record <;> simp [isMatch, tokenIs, meets, h]

theorem isMatch_idIs {id : ObjectId} {record : Record} :
    isMatch (idIs id) record = true ↔ Keyed.get? "_id" record = some (.objectId id) := by
  cases h : Keyed.get? "_id" record <;> simp [isMatch, idIs, meets, h]

theorem isMatch_inChat {id : ObjectId} {record : Record} :
    isMatch (inChat id) record = true ↔ Keyed.get? "chat_id" record = some (.objectId id) := by
  cases h : Keyed.get? "chat_id" record <;> simp [isMatch, inChat, meets, h]

theorem not_isMatch_inChat {id : ObjectId} {record : Record} :
    (!isMatch (inChat id) record) =
      decide (Keyed.get? "chat_id" record ≠ some (.objectId id)) := by
  rw [decide_not, Bool.not_inj_iff, Bool.eq_iff_iff, decide_eq_true_iff]
  exact isMatch_inChat

theorem isMatch_inApplication {id : ObjectId} {record : Record} :
    isMatch (inApplication id) record = true ↔
      Keyed.get? "application_id" record = some (.objectId id) := by
  cases h : Keyed.get? "application_id" record <;> simp [isMatch, inApplication, meets, h]

theorem isMatch_chatIs {applicationId : ObjectId} {number : Int} {record : Record} :
    isMatch (chatIs applicationId number) record = true ↔
      Keyed.get? "application_id" record = some (.objectId applicationId) ∧
        Keyed.get? "number" record = some (.long number) := by
  cases h : Keyed.get? "application_id" record <;> cases h' : Keyed.get? "number" record <;>
    simp [isMatch, chatIs, meets, h, h']

/-! ## changes -/

theorem increment_of_long {record : Record} {field : String} {n : Int} (delta : Int)
    (hfield : Keyed.get? field record = some (.long n)) :
    increment record (field, delta) =
      match Word.addInt64? n delta with
      | some sum => .ok (Keyed.put field (.long sum) record)
      | none => .error (commandFailure badValue) := by
  cases hsum : Word.addInt64? n delta <;> simp [increment, hfield, hsum]

/-- A change of the first match leaves the other records alone. -/
theorem changeFirst_eq_ok {p : Record → Bool} {f : Record → Except Failure Record}
    {records changed : List Record} (h : changeFirst p f records = .ok changed) :
    (records.find? p = none ∧ changed = records) ∨
      ∃ before record record' after, records = before ++ record :: after ∧ p record = true ∧
        records.find? p = some record ∧ f record = .ok record' ∧
        changed = before ++ record' :: after := by
  induction records generalizing changed with
  | nil =>
      left
      simpa [changeFirst, eq_comm] using h
  | cons record rest ih =>
      cases hp : p record with
      | true =>
          right
          cases hf : f record with
          | error e => simp [changeFirst, hp, hf, bind, Except.bind] at h
          | ok record' =>
              have hchanged : record' :: rest = changed := by
                simpa [changeFirst, hp, hf, bind, Except.bind, pure, Except.pure] using h
              exact ⟨[], record, record', rest, rfl, hp, by simp [hp], hf, hchanged.symm⟩
      | false =>
          cases hrest : changeFirst p f rest with
          | error e => simp [changeFirst, hp, hrest, bind, Except.bind] at h
          | ok changed' =>
              have hchanged : record :: changed' = changed := by
                simpa [changeFirst, hp, hrest, bind, Except.bind, pure, Except.pure] using h
              subst hchanged
              obtain ⟨hnone, rfl⟩ | ⟨before, found, found', after, rfl, hfound⟩ := ih hrest
              · exact .inl ⟨by simpa [hp] using hnone, rfl⟩
              · refine .inr ⟨record :: before, found, found', after, rfl, hfound.1, ?_,
                  hfound.2.2.1, by rw [hfound.2.2.2]; rfl⟩
                simpa [hp] using hfound.2.1

/-- A changed record that was read back as it was before. -/
theorem changed_of_rowOrError {ρ : Type} {ofRecord? : Record → Option ρ} {missing : StoreError}
    {row : ρ} {p : Record → Bool} {f : Record → Except Failure Record}
    {records changed : List Record} (hchange : changeFirst p f records = .ok changed)
    (hrow : rowOrError ofRecord? missing (records.find? p) = .ok row) :
    ∃ before parent parent' after, records = before ++ parent :: after ∧ p parent = true ∧
      rowOf ofRecord? parent = .ok row ∧ f parent = .ok parent' ∧
      changed = before ++ parent' :: after := by
  rcases changeFirst_eq_ok hchange with
    ⟨hnone, -⟩ | ⟨before, parent, parent', after, hsplit, hp, hfind, hf, hchanged⟩
  · simp [hnone, rowOrError] at hrow
  · rw [hfind] at hrow
    exact ⟨before, parent, parent', after, hsplit, hp, hrow, hf, hchanged⟩

/-- A change of the one record that matches is a change of one entry. -/
theorem changeFirst_map {κ ν : Type} [DecidableEq κ] {key : κ} {value : ν} {entries : Keyed κ ν}
    {g : κ × ν → Record} {p : Record → Bool} {f : Record → Except Failure Record} {change : ν → ν}
    (hnodup : (Keyed.keys entries).Nodup) (h : Keyed.get? key entries = some value)
    (hp : ∀ entry ∈ entries, p (g entry) = decide (entry.1 = key))
    (hf : f (g (key, value)) = .ok (g (key, change value))) :
    changeFirst p f (entries.map g) = .ok ((Keyed.update key change entries).map g) := by
  induction entries with
  | nil => simp [Keyed.get?] at h
  | cons entry rest ih =>
      have hentry := hp entry (by simp)
      have hnotin : entry.1 ∉ Keyed.keys rest := (List.nodup_cons.mp hnodup).1
      obtain ⟨k, v⟩ := entry
      by_cases hkey : k = key
      · subst hkey
        obtain rfl : v = value := by simpa [Keyed.get?] using h
        have hrest : Keyed.update k change rest = rest := Keyed.update_eq_self hnotin
        simp only [Keyed.update] at hrest
        simp [changeFirst, hentry, hf, Keyed.update, hrest, bind, Except.bind, pure, Except.pure]
      · have ih := ih (List.nodup_cons.mp hnodup).2 (by simpa [Keyed.get?, hkey] using h)
          fun other hother => hp other (by simp [hother])
        simp only [Keyed.update] at ih
        simp [changeFirst, hentry, hkey, ih, Keyed.update, bind, Except.bind, pure, Except.pure]

/-! ## commands that succeed -/

theorem recordsOf_put (collection other : String) (contents : List Record) (records : Records) :
    recordsOf other (Keyed.put collection contents records) =
      if collection = other then contents else recordsOf other records := by
  unfold recordsOf
  rw [Keyed.get?_put]
  split <;> rfl

theorem update_eq_ok {s s' : State} {collection : String} {filter : Filter} {u : Update}
    {found : Option Record} (h : update s collection filter u = (s', .ok found)) :
    ∃ changed, changeFirst (isMatch filter) (applyUpdate u) (recordsOf collection s.records) =
        .ok changed ∧
      s' = { s with records := Keyed.put collection changed s.records } ∧
      found = (recordsOf collection s.records).find? (isMatch filter) := by
  unfold update at h
  cases hchange : changeFirst (isMatch filter) (applyUpdate u)
      (recordsOf collection s.records) with
  | error f => simp [hchange] at h
  | ok changed =>
      simp only [hchange, Prod.mk.injEq, Except.ok.injEq] at h
      exact ⟨changed, rfl, h.1.symm, h.2.symm⟩

theorem update_of_changeFirst {s : State} {collection : String} {filter : Filter} {u : Update}
    {changed : List Record} (h : changeFirst (isMatch filter) (applyUpdate u)
      (recordsOf collection s.records) = .ok changed) :
    update s collection filter u =
      ({ s with records := Keyed.put collection changed s.records },
        .ok ((recordsOf collection s.records).find? (isMatch filter))) := by
  simp only [update, h]

/-- Where nothing matches, nothing is changed. -/
theorem changeFirst_of_find?_eq_none {p : Record → Bool} {f : Record → Except Failure Record}
    {records : List Record} (h : records.find? p = none) :
    changeFirst p f records = .ok records := by
  induction records with
  | nil => rfl
  | cons record rest ih =>
      rw [List.find?_cons] at h
      split at h
      · contradiction
      · next hp => simp [changeFirst, hp, ih h, bind, Except.bind, pure, Except.pure]

/-- A change of the first match, if it is allowed, is a change of that record. -/
theorem changeFirst_of_find?_eq_some {p : Record → Bool} {f : Record → Except Failure Record}
    {records : List Record} {record record' : Record} (hfind : records.find? p = some record)
    (hf : f record = .ok record') :
    ∃ before after, records = before ++ record :: after ∧
      changeFirst p f records = .ok (before ++ record' :: after) := by
  obtain ⟨hp, before, after, rfl, hbefore⟩ := List.find?_eq_some_iff_append.mp hfind
  refine ⟨before, after, rfl, ?_⟩
  clear hfind
  induction before with
  | nil => simp [changeFirst, hp, hf, bind, Except.bind, pure, Except.pure]
  | cons other before ih =>
      have hother : p other = false := by simpa using hbefore other (by simp)
      have ih := ih fun earlier hearlier => hbefore earlier (by simp [hearlier])
      simp [changeFirst, hother, ih, bind, Except.bind, pure, Except.pure]

/-- If it is not allowed, nothing is changed. -/
theorem changeFirst_of_error {p : Record → Bool} {f : Record → Except Failure Record}
    {records : List Record} {record : Record} {e : Failure} (hfind : records.find? p = some record)
    (hf : f record = .error e) : changeFirst p f records = .error e := by
  induction records with
  | nil => contradiction
  | cons other rest ih =>
      rw [List.find?_cons] at hfind
      split at hfind
      · next hp =>
          obtain rfl := Option.some.inj hfind
          simp [changeFirst, hp, hf, bind, Except.bind]
      · next hp => simp [changeFirst, hp, ih hfind, bind, Except.bind]

theorem update_of_error {s : State} {collection : String} {filter : Filter} {u : Update}
    {e : Failure} (h : changeFirst (isMatch filter) (applyUpdate u)
      (recordsOf collection s.records) = .error e) :
    update s collection filter u = (s, .error e) := by
  simp only [update, h]

/-- An insertion is taken only under an id of its own. -/
theorem insert_eq_ok {s s' : State} {collection : String} {record : Record}
    (h : insert s collection record = (s', .ok ())) :
    (∀ other ∈ recordsOf collection s.records,
      Keyed.get? "_id" other ≠ Keyed.get? "_id" record) ∧
      s' =
        { s with
          records :=
            Keyed.put collection (recordsOf collection s.records ++ [record]) s.records } := by
  unfold insert at h
  dsimp only at h
  split at h
  · simp at h
  · next hfree =>
      refine ⟨fun other hother hsame => hfree ?_, ((Prod.mk.injEq ..).mp h).1.symm⟩
      refine List.any_eq_true.mpr ⟨other, hother, ?_⟩
      rw [List.any_cons, sameKey, List.all_cons, hsame]
      simp

/-- Records that differ in one field of a key differ in the key. -/
theorem sameKey_eq_false {key : List String} {a b : Record} {field : String} (hfield : field ∈ key)
    (h : Keyed.get? field a ≠ Keyed.get? field b) : sameKey key a b = false :=
  List.all_eq_false.mpr ⟨field, hfield, by simpa using h⟩

/-- A record with an id of its own that differs from each other record in a field of the key. -/
theorem sameKey_eq_false_of_ne {records : List Record} {record : Record} {key : List String}
    (hid : ∀ other ∈ records, Keyed.get? "_id" other ≠ Keyed.get? "_id" record)
    (hkey : ∀ other ∈ records, ∃ field ∈ key, Keyed.get? field other ≠ Keyed.get? field record) :
    ∀ other ∈ records, ∀ unique ∈ [["_id"], key], sameKey unique other record = false := by
  intro other hother unique hunique
  obtain rfl | hunique := List.mem_cons.mp hunique
  · exact sameKey_eq_false (List.mem_singleton.mpr rfl) (hid other hother)
  · obtain rfl := List.mem_singleton.mp hunique
    obtain ⟨field, hfield, hne⟩ := hkey other hother
    exact sameKey_eq_false hfield hne

/-- A record whose unique values are its own is taken in. -/
theorem insert_of_fresh {s : State} {collection : String} {record : Record}
    (h : ∀ other ∈ recordsOf collection s.records,
      ∀ key ∈ ["_id"] :: (Keyed.get? collection s.unique).getD [],
        sameKey key other record = false) :
    insert s collection record =
      ({ s with
          records := Keyed.put collection (recordsOf collection s.records ++ [record]) s.records },
        .ok ()) := by
  refine if_neg ?_
  simp only [List.any_eq_true, not_exists, not_and, Bool.not_eq_true]
  exact h

/-- A record of which a unique value is taken is not. -/
theorem insert_of_taken {s : State} {collection : String} {record other : Record}
    {key : List String} (hother : other ∈ recordsOf collection s.records)
    (hkey : key ∈ ["_id"] :: (Keyed.get? collection s.unique).getD [])
    (hsame : sameKey key other record = true) :
    insert s collection record = (s, .error { cause := .write duplicateKey }) :=
  if_pos <| List.any_eq_true.mpr ⟨other, hother, List.any_eq_true.mpr ⟨key, hkey, hsame⟩⟩

/-- An insertion that is refused changes nothing. -/
theorem insert_eq_error {s s' : State} {collection : String} {record : Record} {f : Failure}
    (h : insert s collection record = (s', .error f)) : s' = s := by
  unfold insert at h
  dsimp only at h
  split at h
  · exact ((Prod.mk.injEq ..).mp h).1.symm
  · simp at h

/-- What is removed is the first match. -/
theorem eraseP_of_find?_eq_some {records : List Record} {p : Record → Bool} {record : Record}
    (h : records.find? p = some record) :
    ∃ before after, records = before ++ record :: after ∧ records.eraseP p = before ++ after := by
  obtain ⟨hp, before, after, rfl, hbefore⟩ := List.find?_eq_some_iff_append.mp h
  refine ⟨before, after, rfl, ?_⟩
  rw [List.eraseP_append_right _ (by simpa using hbefore), List.eraseP_cons_of_pos hp]

end Server

/-- A record with one more child, whose number is the next one. -/
def withChild (count : CounterField) (lastNumber : String) (n last now : Int) (record : Record) :
    Record :=
  Keyed.put "updated_at" (.time now) <|
    Keyed.put lastNumber (.long (last + 1)) <| Keyed.put count.name (.long (n + 1)) record

/-- A record with one child less. -/
def withoutChild (count : CounterField) (n now : Int) (record : Record) : Record :=
  Keyed.put "updated_at" (.time now) <| Keyed.put count.name (.long (n - 1)) record

/-- One more child, while count and number are in range. -/
theorem applyUpdate_childAdded_eq {count : CounterField} {lastNumber : String} {n last : Int}
    {record : Record} (now : Int) (hother : count.name ≠ lastNumber)
    (hcount : Keyed.get? count.name record = some (.long n))
    (hlast : Keyed.get? lastNumber record = some (.long last)) :
    Server.applyUpdate (childAdded count lastNumber now) record =
      if Word.IsInt64 (n + 1) ∧ Word.IsInt64 (last + 1) then
        .ok (withChild count lastNumber n last now record)
      else .error (Server.commandFailure Server.badValue) := by
  have hlast' : Keyed.get? lastNumber (Keyed.put count.name (.long (n + 1)) record) =
      some (.long last) := by
    rw [Keyed.get?_put, if_neg hother, hlast]
  have hraised := Server.increment_of_long 1 hcount
  have hnext := Server.increment_of_long 1 hlast'
  by_cases hn : Word.IsInt64 (n + 1)
  · by_cases hl : Word.IsInt64 (last + 1)
    · simp [Server.applyUpdate, childAdded, countersChange, CounterUpdate.increments,
        CounterUpdate.increment, hraised, hnext, Word.addInt64?, hn, hl, withChild, bind,
        Except.bind, pure, Except.pure]
    · simp [Server.applyUpdate, childAdded, countersChange, CounterUpdate.increments,
        CounterUpdate.increment, hraised, hnext, Word.addInt64?, hn, hl, bind, Except.bind]
  · simp [Server.applyUpdate, childAdded, countersChange, CounterUpdate.increments,
      CounterUpdate.increment, hraised, Word.addInt64?, hn, bind, Except.bind]

theorem applyUpdate_childAdded {count : CounterField} {lastNumber : String} {n last now : Int}
    {record record' : Record} (hother : count.name ≠ lastNumber)
    (hcount : Keyed.get? count.name record = some (.long n))
    (hlast : Keyed.get? lastNumber record = some (.long last))
    (h : Server.applyUpdate (childAdded count lastNumber now) record = .ok record') :
    record' = withChild count lastNumber n last now record := by
  rw [applyUpdate_childAdded_eq now hother hcount hlast] at h
  split at h
  · exact (Except.ok.inj h).symm
  · contradiction

/-- One child less, while the count is in range. -/
theorem applyUpdate_decrement_eq {count : CounterField} {n : Int} {record : Record} (now : Int)
    (hcount : Keyed.get? count.name record = some (.long n)) :
    Server.applyUpdate (countersChange (CounterUpdate.decrement count).increments now) record =
      if Word.IsInt64 (n - 1) then .ok (withoutChild count n now record)
      else .error (Server.commandFailure Server.badValue) := by
  have hlowered := Server.increment_of_long (-1) hcount
  by_cases hn : Word.IsInt64 (n + -1)
  · simp [Server.applyUpdate, countersChange, CounterUpdate.increments, CounterUpdate.decrement,
      hlowered, Word.addInt64?, hn, withoutChild, Int.sub_eq_add_neg, bind, Except.bind, pure,
      Except.pure]
  · simp [Server.applyUpdate, countersChange, CounterUpdate.increments, CounterUpdate.decrement,
      hlowered, Word.addInt64?, hn, Int.sub_eq_add_neg, bind, Except.bind]

theorem applyUpdate_decrement {count : CounterField} {n now : Int} {record record' : Record}
    (hcount : Keyed.get? count.name record = some (.long n))
    (h : Server.applyUpdate (countersChange (CounterUpdate.decrement count).increments now) record =
      .ok record') : record' = withoutChild count n now record := by
  rw [applyUpdate_decrement_eq now hcount] at h
  split at h
  · exact (Except.ok.inj h).symm
  · contradiction

end ChatService.Database
