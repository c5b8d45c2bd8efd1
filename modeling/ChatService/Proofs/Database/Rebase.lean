import ChatService.Proofs.Database.Standing

/-!
# The same unit of work on other records

A transaction that is committed changes documents as they were in its snapshot, while others may
have changed other documents since.  Because it wrote none of theirs, its unit of work does to the
committed records what it did to its snapshot.  Only the removal of a chat reads documents that it
need not write: the messages of the chat, none of which may be missing from the snapshot.
-/

namespace ChatService.Database

open Server (Records recordsOf)
open Store (Operation)

/-! ## one collection -/

/-- What changed in one collection, changed in the same way in another one: documents that were left
alone stay, and the others are there what they were, and become what they became. -/
structure Rebased (old new here there : List Record) : Prop where
  oldIds : Identifies old
  hereIds : Identifies here
  thereIds : Identifies there
  same : ∀ id, documentIn id new = documentIn id old → documentIn id there = documentIn id here
  changed : ∀ id, documentIn id new ≠ documentIn id old →
    documentIn id here = documentIn id old ∧ documentIn id there = documentIn id new

namespace Rebased

variable {old new here there before after : List Record} {record record' : Record}

theorem unchanged (h : Rebased old new here there) (hnew : new = old) : here.Perm there :=
  perm_of_documentIn h.hereIds h.thereIds fun id => (h.same id (by rw [hnew])).symm

theorem replaced (h : Rebased old new here there) (hold : old = before ++ record :: after)
    (hnew : new = before ++ record' :: after)
    (hid : Keyed.get? "_id" record' = Keyed.get? "_id" record) (hne : record' ≠ record) :
    ∃ before after, here = before ++ record :: after ∧
      (before ++ record' :: after).Perm there := by
  have hids := h.oldIds
  rw [hold] at hids
  have hdocument := documentIn_split hids
  have hdocument' := documentIn_split (hids.replaced hid)
  rw [← hold] at hdocument
  rw [← hnew, hid] at hdocument'
  have hwas := (hdocument (Keyed.get? "_id" record)).trans (if_pos rfl)
  have hbecomes := (hdocument' (Keyed.get? "_id" record)).trans (if_pos rfl)
  obtain ⟨hhere, hthere⟩ := h.changed (Keyed.get? "_id" record) (by simp [hwas, hbecomes, hne])
  refine perm_of_replaced h.hereIds h.thereIds (hhere.trans hwas) (hthere.trans hbecomes)
    fun other hother => h.same other ?_
  rw [hdocument, hdocument', if_neg (Ne.symm hother), if_neg (Ne.symm hother)]

theorem added (h : Rebased old new here there) {id : Option Value}
    (hid : Keyed.get? "_id" record = id) (hnew : new = old ++ [record])
    (hfresh : ∀ other ∈ old, Keyed.get? "_id" other ≠ id) :
    (∀ other ∈ here, Keyed.get? "_id" other ≠ id) ∧ (here ++ [record]).Perm there := by
  subst hid
  have hdocument := documentIn_split (h.oldIds.added hfresh)
  rw [← hnew, List.append_nil] at hdocument
  have hwas : documentIn (Keyed.get? "_id" record) old = none := documentIn_eq_none_iff.mpr hfresh
  have hbecomes := (hdocument (Keyed.get? "_id" record)).trans (if_pos rfl)
  obtain ⟨hhere, hthere⟩ := h.changed (Keyed.get? "_id" record) (by simp [hwas, hbecomes])
  rw [hwas] at hhere
  refine ⟨documentIn_eq_none_iff.mp hhere, perm_of_added h.hereIds h.thereIds hhere
    (hthere.trans hbecomes) fun other hother => h.same other ?_⟩
  rw [hdocument, if_neg (Ne.symm hother)]

theorem removed (h : Rebased old new here there) (hold : old = before ++ record :: after)
    (hnew : new = before ++ after) :
    ∃ before after, here = before ++ record :: after ∧ (before ++ after).Perm there := by
  have hids := h.oldIds
  rw [hold] at hids
  have hdocument := documentIn_split hids
  rw [← hold, ← hnew] at hdocument
  have hwas := (hdocument (Keyed.get? "_id" record)).trans (if_pos rfl)
  have hbecomes : documentIn (Keyed.get? "_id" record) new = none := by
    rw [hnew, documentIn_eq_none_iff]
    intro other hother hid
    rw [Identifies, List.map_append, List.map_cons, List.nodup_middle, ← List.map_append] at hids
    exact (List.nodup_cons.mp hids).1 (hid ▸ List.mem_map_of_mem hother)
  obtain ⟨hhere, hthere⟩ := h.changed (Keyed.get? "_id" record) (by simp [hwas, hbecomes])
  refine perm_of_removed h.hereIds h.thereIds (hhere.trans hwas) (hthere.trans hbecomes)
    fun other hother => h.same other ?_
  rw [hdocument, if_neg (Ne.symm hother)]

/-- Where every document that fails a test was there before, removing those that fail it is the same
change. -/
theorem filtered (h : Rebased old new here there) (p : Record → Bool) (hnew : new = old.filter p)
    (hall : ∀ record ∈ here, p record = false → record ∈ old) : (here.filter p).Perm there := by
  refine perm_of_filtered h.hereIds h.thereIds p fun id => ?_
  have hdocument : documentIn id new = (documentIn id old).filter p := by
    rw [hnew, documentIn_filter h.oldIds]
  by_cases hsame : documentIn id new = documentIn id old
  · rw [h.same id hsame]
    cases hhere : documentIn id here with
    | none => rfl
    | some record =>
        cases hp : p record with
        | true => simp [Option.filter, hp]
        | false =>
            -- It was there before, so it would have been removed.
            obtain ⟨hmem, hid⟩ := documentIn_eq_some hhere
            have hwas := (documentIn_eq_some_iff h.oldIds).mpr ⟨hall record hmem hp, hid⟩
            rw [hdocument, hwas] at hsame
            simp [Option.filter, hp] at hsame
  · obtain ⟨hhere, hthere⟩ := h.changed id hsame
    rw [hthere, hhere, hdocument]

/-- Records of which the change left every copy alone are the same as before. -/
theorem mem_iff (h : Rebased old new here there) (hnewIds : Identifies new)
    (hsame : record ∈ new ↔ record ∈ old) : record ∈ there ↔ record ∈ here := by
  have hthere := documentIn_id_iff h.thereIds record
  have hhere := documentIn_id_iff h.hereIds record
  have hnew := documentIn_id_iff hnewIds record
  have hold := documentIn_id_iff h.oldIds record
  by_cases hchange :
      documentIn (Keyed.get? "_id" record) new = documentIn (Keyed.get? "_id" record) old
  · rw [← hthere, ← hhere, h.same _ hchange]
  · obtain ⟨hhere', hthere'⟩ := h.changed _ hchange
    rw [← hthere, ← hhere, hhere', hthere', hnew, hold, hsame]

end Rebased

/-! ## units of work -/

/-- What changed between two states of the records, changed in the same way between two others. -/
structure Replayed (old new here there : Records) : Prop where
  unchanged : ∀ key, ¬Changed old new key → document there key = document here key
  changed : ∀ key, Changed old new key →
    document here key = document old key ∧ document there key = document new key

theorem Replayed.rebased {old new here there : Records} (h : Replayed old new here there)
    (hold : Identified old) (hhere : Identified here) (hthere : Identified there)
    (collection : String) :
    Rebased (recordsOf collection old) (recordsOf collection new) (recordsOf collection here)
      (recordsOf collection there) where
  oldIds := hold collection
  hereIds := hhere collection
  thereIds := hthere collection
  same id hsame := h.unchanged ⟨collection, id⟩ (fun hchanged => hchanged hsame)
  changed id hchanged := h.changed ⟨collection, id⟩ hchanged

section Fields

variable {record : Record}

/-- A record whose counters were raised has changed, and kept its id. -/
theorem ApplicationRow.withChild_changed {row : ApplicationRow} (h : Holds record row.toRecord)
    (now : Int) :
    let raised := withChild .chats "last_chat_number" row.chatsCount row.lastChatNumber now record
    Keyed.get? "_id" raised = Keyed.get? "_id" record ∧ raised ≠ record := by
  have hraised := ApplicationRow.fields_of_holds (ApplicationRow.holds_withChild h now)
  have hfields := ApplicationRow.fields_of_holds h
  refine ⟨hraised.1.trans hfields.1.symm, fun heq => ?_⟩
  have hlast := hraised.2.2.2
  rw [heq, hfields.2.2.2] at hlast
  simp only [Option.some.injEq, Value.long.injEq] at hlast
  omega

@[inherit_doc ApplicationRow.withChild_changed]
theorem ChatRow.withChild_changed {row : ChatRow} (h : Holds record row.toRecord) (now : Int) :
    let raised :=
      withChild .messages "last_message_number" row.messagesCount row.lastMessageNumber now record
    Keyed.get? "_id" raised = Keyed.get? "_id" record ∧ raised ≠ record := by
  have hraised := ChatRow.fields_of_holds (ChatRow.holds_withChild h now)
  have hfields := ChatRow.fields_of_holds h
  refine ⟨hraised.1.trans hfields.1.symm, fun heq => ?_⟩
  have hlast := hraised.2.2.2.2
  rw [heq, hfields.2.2.2.2] at hlast
  simp only [Option.some.injEq, Value.long.injEq] at hlast
  omega

/-- A record whose count was lowered has changed, and kept its id. -/
theorem ApplicationRow.withoutChild_changed {row : ApplicationRow}
    (h : Holds record row.toRecord) (now : Int) :
    let lowered := withoutChild .chats row.chatsCount now record
    Keyed.get? "_id" lowered = Keyed.get? "_id" record ∧ lowered ≠ record := by
  have hlowered := ApplicationRow.fields_of_holds (ApplicationRow.holds_withoutChild h now)
  have hfields := ApplicationRow.fields_of_holds h
  refine ⟨hlowered.1.trans hfields.1.symm, fun heq => ?_⟩
  have hcount := hlowered.2.2.1
  rw [heq, hfields.2.2.1] at hcount
  simp only [Option.some.injEq, Value.long.injEq] at hcount
  omega

end Fields

theorem ChatRow.id_toRecord (row : ChatRow) :
    Keyed.get? "_id" row.toRecord = some (.objectId row.id) := rfl

theorem MessageRow.id_toRecord (row : MessageRow) :
    Keyed.get? "_id" row.toRecord = some (.objectId row.id) := rfl

/-- The key of a chat. -/
def chatKey (id : ObjectId) : Key := ⟨chats, some (.objectId id)⟩

section Units

variable {α : Type} {operation : Operation α} {value : α} {old new here there : Records}

theorem Identified.of_sameExcept {collections : List String} (hold : Identified old)
    (hsame : SameExcept collections old new)
    (h : ∀ collection ∈ collections, Identifies (recordsOf collection new)) : Identified new := by
  intro collection
  by_cases hmem : collection ∈ collections
  · exact h collection hmem
  · rw [hsame collection hmem]
    exact hold collection

/-- A unit of work leaves ids unique. -/
theorem Done.identified (hdone : Done operation old new value) (hunit : runsUnit operation = true)
    (hold : Identified old) : Identified new := by
  cases hdone with
  | look hlooks => cases operation <;> contradiction
  | createApplication => contradiction
  | createChat raised hparent hbefore hafter hfresh hadded hsame =>
      refine hold.of_sameExcept hsame ?_
      have happlications := hold applications
      rw [hbefore] at happlications
      simp only [List.forall_mem_cons, hadded, hafter]
      refine ⟨happlications.replaced (ApplicationRow.withChild_changed hparent raised).1,
        (hold chats).added ?_, by simp⟩
      rw [(ChatRow.fields_of_holds (ChatRow.holds_toRecord _)).1]
      exact hfresh
  | createMessage raised hbody happlication hhome hparent hbefore hafter hfresh hadded hsame =>
      refine hold.of_sameExcept hsame ?_
      have hchats := hold chats
      rw [hbefore] at hchats
      simp only [List.forall_mem_cons, hadded, hafter]
      refine ⟨hchats.replaced (ChatRow.withChild_changed hparent raised).1,
        (hold messages).added ?_, by simp⟩
      rw [(MessageRow.fields_of_holds (MessageRow.holds_toRecord _)).1]
      exact hfresh
  | deleteChat now hparent hchat hhome hbefore hafter hbefore' hafter' hmessages hsame =>
      refine hold.of_sameExcept hsame ?_
      have happlications := hold applications
      have hchats := hold chats
      rw [hbefore] at happlications
      rw [hbefore'] at hchats
      simp only [List.forall_mem_cons, hafter, hafter', hmessages]
      exact ⟨happlications.replaced (ApplicationRow.withoutChild_changed hparent now).1,
        hchats.removed, (hold messages).filter _, by simp⟩

/-- Collections that have changed less. -/
theorem SameExcept.mono {collections collections' : List String}
    (h : SameExcept collections old new)
    (hsub : ∀ collection ∈ collections,
      collection ∈ collections' ∨ recordsOf collection new = recordsOf collection old) :
    SameExcept collections' old new := by
  intro collection hcollection
  by_cases hmem : collection ∈ collections
  · exact (hsub collection hmem).resolve_left hcollection
  · exact h collection hmem

/-- Records with other applications, chats and messages. -/
theorem exists_alike (here : Records) {applications' chats' messages' : List Record}
    (happlications : applications'.Perm (recordsOf applications there))
    (hchats : chats'.Perm (recordsOf chats there))
    (hmessages : messages'.Perm (recordsOf messages there)) :
    ∃ there', recordsOf applications there' = applications' ∧ recordsOf chats there' = chats' ∧
      recordsOf messages there' = messages' ∧
      SameExcept [applications, chats, messages] here there' ∧ Alike there' there := by
  refine ⟨Keyed.put messages messages' (Keyed.put chats chats'
    (Keyed.put applications applications' here)), ?_, ?_, ?_, ?_, ⟨?_, ?_, ?_⟩⟩
  case refine_4 =>
    exact (((sameExcept_refl _ _).put (by simp) _).put (by simp) _).put (by simp) _
  all_goals simp [Server.recordsOf_put, happlications, hchats, hmessages]

theorem changed_of_replaced (hold : Identified old) {collection : String} {record record' : Record}
    {before after : List Record} (hbefore : recordsOf collection old = before ++ record :: after)
    (hafter : recordsOf collection new = before ++ record' :: after)
    (hrecord : Keyed.get? "_id" record' = Keyed.get? "_id" record ∧ record' ≠ record) :
    Changed old new ⟨collection, Keyed.get? "_id" record⟩ := by
  have hids := hold collection
  rw [hbefore] at hids
  unfold Changed document
  rw [hbefore, hafter, documentIn_split hids, documentIn_split (hids.replaced hrecord.1),
    if_pos hrecord.1, if_pos rfl]
  simpa using hrecord.2

theorem changed_of_removed (hold : Identified old) {collection : String} {record : Record}
    {before after : List Record} (hbefore : recordsOf collection old = before ++ record :: after)
    (hafter : recordsOf collection new = before ++ after) :
    Changed old new ⟨collection, Keyed.get? "_id" record⟩ := by
  have hids := hold collection
  rw [hbefore] at hids
  have hwas : document old ⟨collection, Keyed.get? "_id" record⟩ = some record := by
    rw [document, hbefore, documentIn_split hids, if_pos rfl]
  unfold Changed
  rw [hwas]
  intro hnow
  obtain ⟨hmem, -⟩ := documentIn_eq_some hnow
  rw [hafter] at hmem
  exact (List.nodup_cons.mp (List.nodup_middle.mp hids.nodup)).1 hmem

/-- **A unit of work that leaves a chat alone leaves its messages alone.** -/
theorem Done.mem_messages_iff (hdone : Done operation old new value)
    (hunit : runsUnit operation = true) (hold : Identified old) {id : ObjectId} {message : Record}
    (hchat : Keyed.get? "chat_id" message = some (.objectId id))
    (hsame : ¬Changed old new (chatKey id)) :
    message ∈ recordsOf messages new ↔ message ∈ recordsOf messages old := by
  cases hdone with
  | look hlooks => cases operation <;> contradiction
  | createApplication => contradiction
  | createChat raised hparent hbefore hafter hfresh hadded hothers =>
      rw [hothers messages (by simp)]
  | createMessage raised hbody happlication hhome hparent hbefore hafter hfresh hadded hothers =>
      rw [hadded, List.mem_append, List.mem_singleton, or_iff_left]
      rintro rfl
      rw [(MessageRow.fields_of_holds (MessageRow.holds_toRecord _)).2.1] at hchat
      obtain rfl := Value.objectId.inj (Option.some.inj hchat)
      have hchanged := changed_of_replaced hold hbefore hafter
        (ChatRow.withChild_changed hparent raised)
      rw [(ChatRow.fields_of_holds hparent).1] at hchanged
      exact hsame hchanged
  | deleteChat now hparent hholds hhome hbefore hafter hbefore' hafter' hmessages hothers =>
      rw [hmessages, List.mem_filter, and_iff_left]
      rw [hchat, decide_eq_true_iff]
      rintro heq
      obtain rfl := Value.objectId.inj (Option.some.inj heq)
      have hchanged := changed_of_removed hold hbefore' hafter'
      rw [(ChatRow.fields_of_holds hholds).1] at hchanged
      exact hsame hchanged

/-- **The unit of work of a transaction does the same to what is committed.** -/
theorem Done.replayed (hdone : Done operation old new value) (hunit : runsUnit operation = true)
    (hold : Identified old) (hhere : Identified here) (hthere : Identified there)
    (happlications : ∀ row, HasApplication old row → ∃ application,
      HasApplication here application ∧ application.id = row.id ∧ application.token = row.token)
    (h : Replayed old new here there)
    (hmessages : ∀ id, Changed old new (chatKey id) → ∀ message ∈ recordsOf messages here,
      Keyed.get? "chat_id" message = some (.objectId id) → message ∈ recordsOf messages old) :
    ∃ there', Done operation here there' value ∧ Alike there' there := by
  have hrebased := h.rebased hold hhere hthere
  cases hdone with
  | look hlooks => cases operation <;> contradiction
  | createApplication => contradiction
  | createChat raised hparent hbefore hafter hfresh hadded hothers =>
      have hchanged := ApplicationRow.withChild_changed hparent raised
      obtain ⟨before, after, hbefore', happlications'⟩ :=
        (hrebased applications).replaced hbefore hafter hchanged.1 hchanged.2
      obtain ⟨hfresh', hchats⟩ := (hrebased chats).added (ChatRow.id_toRecord _) hadded hfresh
      have hmessages' := (hrebased messages).unchanged (hothers _ (by simp))
      obtain ⟨there', happlications₁, hchats₁, hmessages₁, hsame, halike⟩ :=
        exists_alike here happlications' hchats hmessages'
      refine ⟨there', .createChat raised hparent hbefore' happlications₁ hfresh' hchats₁ ?_, halike⟩
      exact hsame.mono (by simp [hmessages₁])
  | createMessage raised hbody happlication hhome hparent hbefore hafter hfresh hadded hothers =>
      have hchanged := ChatRow.withChild_changed hparent raised
      obtain ⟨before, after, hbefore', hchats⟩ :=
        (hrebased chats).replaced hbefore hafter hchanged.1 hchanged.2
      obtain ⟨hfresh', hmessages'⟩ :=
        (hrebased messages).added (MessageRow.id_toRecord _) hadded hfresh
      have happlications' := (hrebased Database.applications).unchanged (hothers _ (by simp))
      obtain ⟨application, happlication', hid', htoken⟩ := happlications _ happlication
      rw [← htoken]
      obtain ⟨there', happlications₁, hchats₁, hmessages₁, hsame, halike⟩ :=
        exists_alike here happlications' hchats hmessages'
      refine ⟨there', .createMessage raised hbody happlication' (hhome.trans hid'.symm) hparent
        hbefore' hchats₁ hfresh' hmessages₁ ?_, halike⟩
      exact hsame.mono (by simp [happlications₁])
  | @deleteChat _ _ application row parent chat _ _ _ _ now hparent hholds hhome hbefore hafter
      hbefore' hafter' hremoved hothers =>
      have hlowered := ApplicationRow.withoutChild_changed hparent now
      have hgone : Changed old new (chatKey row.id) := by
        have hchanged := changed_of_removed hold hbefore' hafter'
        rw [(ChatRow.fields_of_holds hholds).1] at hchanged
        exact hchanged
      obtain ⟨before, after, hhere₁, happlications'⟩ :=
        (hrebased Database.applications).replaced hbefore hafter hlowered.1 hlowered.2
      obtain ⟨before', after', hhere₂, hchats⟩ := (hrebased chats).removed hbefore' hafter'
      have hmessages' := (hrebased messages).filtered _ hremoved fun message hmem hin =>
        hmessages row.id hgone message hmem (by simpa using hin)
      obtain ⟨there', happlications₁, hchats₁, hmessages₁, hsame, halike⟩ :=
        exists_alike here happlications' hchats hmessages'
      exact ⟨there', .deleteChat now hparent hholds hhome hhere₁ happlications₁ hhere₂ hchats₁
        hmessages₁ hsame, halike⟩

end Units

end ChatService.Database
