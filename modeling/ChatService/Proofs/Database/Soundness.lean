import ChatService.Proofs.Database.Atomicity

/-!
# Counters that agree with the records

Applications are the parents of chats, and chats the parents of messages.  `Counted` says of both
what a database says about itself: every parent counts its children, and every child has a number
of its own that its parent has handed out.  One lemma for each way to change parents and children,
so that a unit of work is sound on both levels at once.
-/

namespace ChatService.Database

open Server (State Records recordsOf)
open Store (Operation RetryPolicy)

/-! ## parents and children -/

/-- What a record says as a parent: how many children it has, and the last number of one. -/
structure Parent where
  id : ObjectId
  count : Int
  last : Int

/-- What a record says as a child. -/
structure Child where
  parent : ObjectId
  number : Int
deriving DecidableEq

/-- Parents count their children, and have handed out the numbers of them all. -/
structure Counted (parents : List Parent) (children : List Child) : Prop where
  ids : (parents.map (·.id)).Nodup
  counted : ∀ parent ∈ parents, parent.count = children.countP (·.parent = parent.id)
  last_nonneg : ∀ parent ∈ parents, 0 ≤ parent.last
  numbered : ∀ parent ∈ parents, ∀ child ∈ children, child.parent = parent.id →
    1 ≤ child.number ∧ child.number ≤ parent.last
  distinct : children.Nodup
  home : ∀ child ∈ children, child.parent ∈ parents.map (·.id)

namespace Counted

variable {parents before after : List Parent} {children before' after' : List Child}
  {parent parent' : Parent} {child : Child}

/-- The others have ids other than that of one parent. -/
theorem others (hids : ((before ++ parent :: after).map (·.id)).Nodup) :
    ((before ++ after).map (·.id)).Nodup ∧
      ∀ kept ∈ before ++ after, kept ∈ before ++ parent :: after ∧ kept.id ≠ parent.id := by
  rw [List.map_append, List.map_cons, List.nodup_middle, ← List.map_append] at hids
  obtain ⟨hnotin, hnodup⟩ := List.nodup_cons.mp hids
  refine ⟨hnodup, fun kept hkept => ⟨?_, fun heq => ?_⟩⟩
  · rcases List.mem_append.mp hkept with hmem | hmem <;> simp [hmem]
  · have hmem : kept.id ∈ (before ++ after).map (·.id) := List.mem_map_of_mem hkept
    exact hnotin (heq ▸ hmem)

/-- A parent in whose place another one stands now is no other parent. -/
theorem mem_replaced (hids : ((before ++ parent :: after).map (·.id)).Nodup) {other : Parent}
    (hother : other ∈ before ++ parent' :: after) :
    other = parent' ∨ other ∈ before ++ parent :: after ∧ other.id ≠ parent.id := by
  have hkept := (others hids).2 other
  simp only [List.mem_append, List.mem_cons] at hother hkept ⊢
  grind

/-- A new parent, of whom there are no children. -/
theorem addParent (h : Counted parents children) (hfresh : ∀ other ∈ parents, other.id ≠ parent.id)
    (hcount : parent.count = 0) (hlast : parent.last = 0) :
    Counted (parents ++ [parent]) children := by
  have hnone : ∀ child ∈ children, child.parent ≠ parent.id := by
    intro child hchild heq
    obtain ⟨other, hother, hid⟩ := List.mem_map.mp (h.home child hchild)
    exact hfresh other hother (hid.trans heq)
  have hcases : ∀ other ∈ parents ++ [parent], other ∈ parents ∨ other = parent := by simp
  constructor
  case ids =>
    rw [List.map_append, List.map_singleton]
    have hdisjoint : parent.id ∉ parents.map (·.id) := by simpa using hfresh
    exact h.ids.append (List.nodup_singleton _) (by simpa using hdisjoint)
  case counted =>
    intro other hother
    obtain hmem | rfl := hcases other hother
    · exact h.counted other hmem
    · rw [hcount, List.countP_eq_zero.mpr (by simpa using hnone)]
      rfl
  case last_nonneg =>
    intro other hother
    obtain hmem | rfl := hcases other hother
    · exact h.last_nonneg other hmem
    · omega
  case numbered =>
    intro other hother child hchild hhome
    obtain hmem | rfl := hcases other hother
    · exact h.numbered other hmem child hchild hhome
    · exact absurd hhome (hnone child hchild)
  case distinct => exact h.distinct
  case home =>
    intro child hchild
    rw [List.map_append]
    exact List.mem_append_left _ (h.home child hchild)

theorem empty : Counted [] [] where
  ids := .nil
  counted := by simp
  last_nonneg := by simp
  numbered := by simp
  distinct := .nil
  home := by simp

/-- A new child, under the next number of its parent. -/
theorem addChild (h : Counted (before ++ parent :: after) children) :
    Counted (before ++ ⟨parent.id, parent.count + 1, parent.last + 1⟩ :: after)
      (children ++ [⟨parent.id, parent.last + 1⟩]) := by
  have hparent : parent ∈ before ++ parent :: after := by simp
  have hcount := h.counted parent hparent
  have hlast := h.last_nonneg parent hparent
  constructor
  case ids => simpa using h.ids
  case counted =>
    intro other hother
    obtain rfl | ⟨hmem, hne⟩ := mem_replaced h.ids hother
    · simp [List.countP_append, hcount]
    · simp [List.countP_append, h.counted other hmem, hne.symm]
  case last_nonneg =>
    intro other hother
    obtain rfl | ⟨hmem, -⟩ := mem_replaced h.ids hother
    · show 0 ≤ parent.last + 1
      omega
    · exact h.last_nonneg other hmem
  case numbered =>
    intro other hother child hchild hhome
    obtain rfl | ⟨hmem, hne⟩ := mem_replaced h.ids hother
    · obtain hold | hnew := List.mem_append.mp hchild
      · have := h.numbered parent hparent child hold hhome
        exact ⟨this.1, by show child.number ≤ parent.last + 1; omega⟩
      · obtain rfl := List.mem_singleton.mp hnew
        exact ⟨by show 1 ≤ parent.last + 1; omega, Int.le_refl _⟩
    · obtain hold | hnew := List.mem_append.mp hchild
      · exact h.numbered other hmem child hold hhome
      · obtain rfl := List.mem_singleton.mp hnew
        exact absurd hhome.symm hne
  case distinct =>
    have hnotin : (⟨parent.id, parent.last + 1⟩ : Child) ∉ children := by
      intro hmem
      have := (h.numbered parent hparent _ hmem rfl).2
      simp only at this
      omega
    exact h.distinct.append (List.nodup_singleton _) (by simpa using hnotin)
  case home =>
    intro child hchild
    obtain hold | hnew := List.mem_append.mp hchild
    · simpa using h.home child hold
    · obtain rfl := List.mem_singleton.mp hnew
      simp

/-- One parent with one child. -/
theorem one (id : ObjectId) : Counted [⟨id, 1, 1⟩] [⟨id, 1⟩] := by
  have hparent : Counted ([] ++ ⟨id, 0, 0⟩ :: []) [] := empty.addParent (by simp) rfl rfl
  exact hparent.addChild

/-- One child less. -/
theorem removeChild (h : Counted (before ++ parent :: after) (before' ++ child :: after'))
    (hhome : child.parent = parent.id) :
    Counted (before ++ ⟨parent.id, parent.count - 1, parent.last⟩ :: after)
      (before' ++ after') := by
  have hparent : parent ∈ before ++ parent :: after := by simp
  have hcount := h.counted parent hparent
  have hkept : ∀ kept ∈ before' ++ after', kept ∈ before' ++ child :: after' := by
    intro kept hkept
    rcases List.mem_append.mp hkept with hmem | hmem <;> simp [hmem]
  constructor
  case ids => simpa using h.ids
  case counted =>
    intro other hother
    obtain rfl | ⟨hmem, hne⟩ := mem_replaced h.ids hother
    · simp only [List.countP_append, List.countP_cons, hhome] at hcount ⊢
      simp at hcount ⊢
      omega
    · have := h.counted other hmem
      simpa [List.countP_append, List.countP_cons, hhome, hne.symm] using this
  case last_nonneg =>
    intro other hother
    obtain rfl | ⟨hmem, -⟩ := mem_replaced h.ids hother
    · exact h.last_nonneg parent hparent
    · exact h.last_nonneg other hmem
  case numbered =>
    intro other hother kept hmem' hhome'
    obtain rfl | ⟨hmem, -⟩ := mem_replaced h.ids hother
    · exact h.numbered parent hparent kept (hkept kept hmem') hhome'
    · exact h.numbered other hmem kept (hkept kept hmem') hhome'
  case distinct => exact (List.nodup_cons.mp (List.nodup_middle.mp h.distinct)).2
  case home =>
    intro kept hmem
    simpa using h.home kept (hkept kept hmem)

/-- One parent less, with all its children. -/
theorem removeParent (h : Counted (before ++ parent :: after) children) :
    Counted (before ++ after) (children.filter fun child => child.parent ≠ parent.id) := by
  obtain ⟨hids, hkept⟩ := others h.ids
  constructor
  case ids => exact hids
  case counted =>
    intro other hother
    obtain ⟨hmem, hne⟩ := hkept other hother
    rw [h.counted other hmem, List.countP_filter]
    congr 1
    refine List.countP_congr fun child _ => ?_
    by_cases hchild : child.parent = other.id <;> simp [hchild, hne]
  case last_nonneg =>
    intro other hother
    exact h.last_nonneg other (hkept other hother).1
  case numbered =>
    intro other hother child hchild hhome
    exact h.numbered other (hkept other hother).1 child (List.mem_filter.mp hchild).1 hhome
  case distinct => exact h.distinct.filter _
  case home =>
    intro child hchild
    obtain ⟨hmem, hne⟩ := List.mem_filter.mp hchild
    have hhome := h.home child hmem
    simpa [show child.parent ≠ parent.id by simpa using hne] using hhome

end Counted

/-! ## rows -/

def ApplicationRow.asParent (row : ApplicationRow) : Parent :=
  ⟨row.id, row.chatsCount, row.lastChatNumber⟩

def ChatRow.asChild (row : ChatRow) : Child := ⟨row.applicationId, row.number⟩

def ChatRow.asParent (row : ChatRow) : Parent := ⟨row.id, row.messagesCount, row.lastMessageNumber⟩

def MessageRow.asChild (row : MessageRow) : Child := ⟨row.chatId, row.number⟩

def applicationRows (records : Records) : List ApplicationRow :=
  (recordsOf applications records).filterMap ApplicationRow.ofRecord?

def chatRows (records : Records) : List ChatRow :=
  (recordsOf chats records).filterMap ChatRow.ofRecord?

def messageRows (records : Records) : List MessageRow :=
  (recordsOf messages records).filterMap MessageRow.ofRecord?

/-- The application that counts one chat more. -/
theorem ApplicationRow.holds_withChild {record : Record} {row : ApplicationRow}
    (h : Holds record row.toRecord) (now : Int) :
    Holds (withChild .chats "last_chat_number" row.chatsCount row.lastChatNumber now record)
      { row with
        chatsCount := row.chatsCount + 1, lastChatNumber := row.lastChatNumber + 1
        updatedAt := now }.toRecord := by
  simp only [Holds, toRecord, List.forall_mem_cons, List.not_mem_nil, false_implies, implies_true,
    and_true] at h ⊢
  simp [withChild, Keyed.get?_put, Store.CounterField.name, h]

/-- The application that counts one chat less. -/
theorem ApplicationRow.holds_withoutChild {record : Record} {row : ApplicationRow}
    (h : Holds record row.toRecord) (now : Int) :
    Holds (withoutChild .chats row.chatsCount now record)
      { row with chatsCount := row.chatsCount - 1, updatedAt := now }.toRecord := by
  simp only [Holds, toRecord, List.forall_mem_cons, List.not_mem_nil, false_implies, implies_true,
    and_true] at h ⊢
  simp [withoutChild, Keyed.get?_put, Store.CounterField.name, h]

/-- The chat that counts one message more. -/
theorem ChatRow.holds_withChild {record : Record} {row : ChatRow}
    (h : Holds record row.toRecord) (now : Int) :
    Holds (withChild .messages "last_message_number" row.messagesCount row.lastMessageNumber now
        record)
      { row with
        messagesCount := row.messagesCount + 1, lastMessageNumber := row.lastMessageNumber + 1
        updatedAt := now }.toRecord := by
  simp only [Holds, toRecord, List.forall_mem_cons, List.not_mem_nil, false_implies, implies_true,
    and_true] at h ⊢
  simp [withChild, Keyed.get?_put, Store.CounterField.name, h]

/-! ## units of work -/

/-- Records that hold rows, on which parents and children agree. -/
structure Sound (records : Records) : Prop extends Stored records where
  messages : ∀ record ∈ recordsOf Database.messages records,
    ∃ row : MessageRow, Holds record row.toRecord
  chatsCounted : Counted ((applicationRows records).map (·.asParent))
    ((chatRows records).map (·.asChild))
  messagesCounted : Counted ((chatRows records).map (·.asParent))
    ((messageRows records).map (·.asChild))

section Rows

variable {ρ : Type} {ofRecord? : Record → Option ρ} {toRecord : ρ → Record}
  {contents before after : List Record} {record : Record} {row : ρ}

theorem rows_split (hcontents : contents = before ++ record :: after)
    (h : ofRecord? record = some row) :
    contents.filterMap ofRecord? =
      before.filterMap ofRecord? ++ row :: after.filterMap ofRecord? := by
  rw [hcontents, List.filterMap_append, List.filterMap_cons_some h]

/-- What is read off the rows, with the row of one record in its place. -/
theorem map_rows_split {δ : Type} (f : ρ → δ) (hcontents : contents = before ++ record :: after)
    (h : ofRecord? record = some row) :
    (contents.filterMap ofRecord?).map f =
      (before.filterMap ofRecord?).map f ++ f row :: (after.filterMap ofRecord?).map f := by
  rw [rows_split hcontents h, List.map_append, List.map_cons]

/-- A record that takes the place of another one holds a row, too. -/
theorem holds_replaced {parent : Record} (hold : ∀ other ∈ before ++ parent :: after, ∃ row,
      Holds other (toRecord row)) (h : Holds record (toRecord row)) :
    ∀ other ∈ before ++ record :: after, ∃ row, Holds other (toRecord row) := by
  intro other hother
  obtain hmem | hmem := List.mem_append.mp hother
  · exact hold other (List.mem_append_left _ hmem)
  · obtain rfl | hmem := List.mem_cons.mp hmem
    · exact ⟨row, h⟩
    · exact hold other (List.mem_append_right _ (List.mem_cons_of_mem _ hmem))

theorem holds_added (hold : ∀ other ∈ contents, ∃ row, Holds other (toRecord row))
    (h : Holds record (toRecord row)) :
    ∀ other ∈ contents ++ [record], ∃ row, Holds other (toRecord row) := by
  intro other hother
  obtain hmem | hmem := List.mem_append.mp hother
  · exact hold other hmem
  · obtain rfl := List.mem_singleton.mp hmem
    exact ⟨row, h⟩

/-- Every row is read off a record that holds it. -/
theorem exists_of_mem_rows (hold : ∀ other ∈ contents, ∃ row, Holds other (toRecord row))
    (hread : ∀ {record row}, Holds record (toRecord row) → ofRecord? record = some row)
    (hrow : row ∈ contents.filterMap ofRecord?) :
    ∃ record ∈ contents, Holds record (toRecord row) := by
  obtain ⟨record, hmem, hsome⟩ := List.mem_filterMap.mp hrow
  obtain ⟨row', hholds⟩ := hold record hmem
  obtain rfl := Option.some.inj ((hread hholds).symm.trans hsome)
  exact ⟨record, hmem, hholds⟩

end Rows

namespace Sound

variable {records records' : Records} {id : ObjectId} {now : Int}

theorem application_ne (h : Sound records) (hfresh : IdFree Database.applications id records) :
    ∀ parent ∈ (applicationRows records).map (·.asParent), parent.id ≠ id := by
  intro parent hparent heq
  obtain ⟨row, hrow, rfl⟩ := List.mem_map.mp hparent
  obtain ⟨record, hmem, hholds⟩ :=
    exists_of_mem_rows h.applications ApplicationRow.ofRecord?_of_holds hrow
  exact hfresh record hmem (heq ▸ (ApplicationRow.fields_of_holds hholds).1)

theorem chat_ne (h : Sound records) (hfresh : IdFree Database.chats id records) :
    ∀ parent ∈ (chatRows records).map (·.asParent), parent.id ≠ id := by
  intro parent hparent heq
  obtain ⟨row, hrow, rfl⟩ := List.mem_map.mp hparent
  obtain ⟨record, hmem, hholds⟩ := exists_of_mem_rows h.chats ChatRow.ofRecord?_of_holds hrow
  exact hfresh record hmem (heq ▸ (ChatRow.fields_of_holds hholds).1)

theorem addApplication (h : Sound records) {token name : String}
    (hfresh : IdFree Database.applications id records)
    (hadded : recordsOf Database.applications records' =
      recordsOf Database.applications records ++ [(newApplicationRow id token name now).toRecord])
    (hsame : SameExcept [Database.applications] records records') : Sound records' := by
  have hchats : recordsOf Database.chats records' = recordsOf Database.chats records :=
    hsame _ (by simp)
  have hmessages : recordsOf Database.messages records' = recordsOf Database.messages records :=
    hsame _ (by simp)
  have hnew := ApplicationRow.holds_toRecord (newApplicationRow id token name now)
  have hrows : applicationRows records' =
      applicationRows records ++ [newApplicationRow id token name now] :=
    rows_split hadded (ApplicationRow.ofRecord?_of_holds hnew)
  have hchatRows : chatRows records' = chatRows records :=
    congrArg (List.filterMap ChatRow.ofRecord?) hchats
  have hmessageRows : messageRows records' = messageRows records :=
    congrArg (List.filterMap MessageRow.ofRecord?) hmessages
  constructor
  case toStored =>
    constructor
    case applications =>
      rw [hadded]
      exact holds_added h.applications hnew
    case chats =>
      rw [hchats]
      exact h.chats
    case ids =>
      rw [hadded, List.map_append]
      refine h.ids.append (List.nodup_singleton _) (List.disjoint_singleton.mpr fun hmem => ?_)
      obtain ⟨record, hrecord, hid⟩ := List.mem_map.mp hmem
      exact hfresh record hrecord hid
  case messages =>
    rw [hmessages]
    exact h.messages
  case chatsCounted =>
    rw [hrows, hchatRows, List.map_append]
    exact h.chatsCounted.addParent (h.application_ne hfresh) rfl rfl
  case messagesCounted =>
    rw [hchatRows, hmessageRows]
    exact h.messagesCounted

theorem addChat (h : Sound records) {row : ApplicationRow} {parent : Record}
    {before after : List Record} (raised : Int) (hparent : Holds parent row.toRecord)
    (hbefore : recordsOf Database.applications records = before ++ parent :: after)
    (hafter : recordsOf Database.applications records' =
      before ++
        withChild .chats "last_chat_number" row.chatsCount row.lastChatNumber raised parent ::
          after)
    (hfresh : IdFree Database.chats id records)
    (hadded : recordsOf Database.chats records' =
      recordsOf Database.chats records ++
        [(newChatRow id row.id (row.lastChatNumber + 1) now).toRecord])
    (hsame : SameExcept [Database.applications, Database.chats] records records') :
    Sound records' := by
  have hmessages : recordsOf Database.messages records' = recordsOf Database.messages records :=
    hsame _ (by simp)
  have hraised := ApplicationRow.holds_withChild hparent raised
  have hnew := ChatRow.holds_toRecord (newChatRow id row.id (row.lastChatNumber + 1) now)
  have hmessageRows : messageRows records' = messageRows records :=
    congrArg (List.filterMap MessageRow.ofRecord?) hmessages
  have hchatRows : chatRows records' =
      chatRows records ++ [newChatRow id row.id (row.lastChatNumber + 1) now] :=
    rows_split hadded (ChatRow.ofRecord?_of_holds hnew)
  constructor
  case toStored =>
    constructor
    case applications =>
      rw [hafter]
      exact holds_replaced (hbefore ▸ h.applications) hraised
    case chats =>
      rw [hadded]
      exact holds_added h.chats hnew
    case ids =>
      have hids := h.ids
      rw [hbefore] at hids
      rw [hafter]
      simpa [withChild, Keyed.get?_put, Store.CounterField.name] using hids
  case messages =>
    rw [hmessages]
    exact h.messages
  case chatsCounted =>
    have hcounted := h.chatsCounted
    rw [applicationRows, map_rows_split _ hbefore (ApplicationRow.ofRecord?_of_holds hparent)]
      at hcounted
    rw [applicationRows, map_rows_split _ hafter (ApplicationRow.ofRecord?_of_holds hraised),
      hchatRows, List.map_append]
    exact hcounted.addChild
  case messagesCounted =>
    rw [hchatRows, hmessageRows, List.map_append]
    exact h.messagesCounted.addParent (h.chat_ne hfresh) rfl rfl

theorem addMessage (h : Sound records) {row : ChatRow} {parent : Record}
    {before after : List Record} {text : String} (raised : Int)
    (hparent : Holds parent row.toRecord)
    (hbefore : recordsOf Database.chats records = before ++ parent :: after)
    (hafter : recordsOf Database.chats records' =
      before ++
        withChild .messages "last_message_number" row.messagesCount row.lastMessageNumber raised
          parent :: after)
    (hadded : recordsOf Database.messages records' =
      recordsOf Database.messages records ++
        [(newMessageRow id row.id (row.lastMessageNumber + 1) text now).toRecord])
    (hsame : SameExcept [Database.chats, Database.messages] records records') :
    Sound records' := by
  have happlications : recordsOf Database.applications records' =
      recordsOf Database.applications records := hsame _ (by simp)
  have hraised := ChatRow.holds_withChild hparent raised
  have hnew := MessageRow.holds_toRecord
    (newMessageRow id row.id (row.lastMessageNumber + 1) text now)
  have happlicationRows : applicationRows records' = applicationRows records :=
    congrArg (List.filterMap ApplicationRow.ofRecord?) happlications
  have hmessageRows : messageRows records' =
      messageRows records ++ [newMessageRow id row.id (row.lastMessageNumber + 1) text now] :=
    rows_split hadded (MessageRow.ofRecord?_of_holds hnew)
  constructor
  case toStored =>
    constructor
    case applications =>
      rw [happlications]
      exact h.applications
    case chats =>
      rw [hafter]
      exact holds_replaced (hbefore ▸ h.chats) hraised
    case ids =>
      rw [happlications]
      exact h.ids
  case messages =>
    rw [hadded]
    exact holds_added h.messages hnew
  case chatsCounted =>
    have hcounted := h.chatsCounted
    rw [chatRows, map_rows_split _ hbefore (ChatRow.ofRecord?_of_holds hparent)] at hcounted
    rw [happlicationRows, chatRows, map_rows_split _ hafter (ChatRow.ofRecord?_of_holds hraised)]
    exact hcounted
  case messagesCounted =>
    have hcounted := h.messagesCounted
    rw [chatRows, map_rows_split _ hbefore (ChatRow.ofRecord?_of_holds hparent)] at hcounted
    rw [chatRows, map_rows_split _ hafter (ChatRow.ofRecord?_of_holds hraised), hmessageRows,
      List.map_append]
    exact hcounted.addChild

/-- The messages whose chat is removed are those whose rows say so. -/
theorem messageRows_filter (h : Sound records) (id : ObjectId) :
    ((recordsOf Database.messages records).filter fun message =>
        decide (Keyed.get? "chat_id" message ≠ some (.objectId id))).filterMap
          MessageRow.ofRecord? =
      (messageRows records).filter fun row => decide (row.chatId ≠ id) := by
  rw [messageRows, List.filter_filterMap, List.filterMap_filter]
  refine List.filterMap_congr fun record hrecord => ?_
  obtain ⟨row, hholds⟩ := h.messages record hrecord
  rw [MessageRow.ofRecord?_of_holds hholds, (MessageRow.fields_of_holds hholds).2.1]
  by_cases hid : row.chatId = id <;> simp [hid, Option.filter]

theorem removeChat (h : Sound records) {application : ApplicationRow} {row : ChatRow}
    {parent chat : Record} {before after before' after' : List Record}
    (hparent : Holds parent application.toRecord) (hchat : Holds chat row.toRecord)
    (hhome : row.applicationId = application.id)
    (hbefore : recordsOf Database.applications records = before ++ parent :: after)
    (hafter : recordsOf Database.applications records' =
      before ++ withoutChild .chats application.chatsCount now parent :: after)
    (hbefore' : recordsOf Database.chats records = before' ++ chat :: after')
    (hafter' : recordsOf Database.chats records' = before' ++ after')
    (hmessages : recordsOf Database.messages records' =
      (recordsOf Database.messages records).filter fun message =>
        decide (Keyed.get? "chat_id" message ≠ some (.objectId row.id))) :
    Sound records' := by
  have hlowered := ApplicationRow.holds_withoutChild hparent now
  constructor
  case toStored =>
    constructor
    case applications =>
      rw [hafter]
      exact holds_replaced (hbefore ▸ h.applications) hlowered
    case chats =>
      rw [hafter']
      intro record hrecord
      refine h.chats record ?_
      rw [hbefore']
      rcases List.mem_append.mp hrecord with hmem | hmem <;> simp [hmem]
    case ids =>
      have hids := h.ids
      rw [hbefore] at hids
      rw [hafter]
      simpa [withoutChild, Keyed.get?_put, Store.CounterField.name] using hids
  case messages =>
    rw [hmessages]
    exact fun record hrecord => h.messages record (List.mem_of_mem_filter hrecord)
  case chatsCounted =>
    have hcounted := h.chatsCounted
    rw [applicationRows, map_rows_split _ hbefore (ApplicationRow.ofRecord?_of_holds hparent),
      chatRows, map_rows_split _ hbefore' (ChatRow.ofRecord?_of_holds hchat)] at hcounted
    rw [applicationRows, map_rows_split _ hafter (ApplicationRow.ofRecord?_of_holds hlowered),
      chatRows, hafter', List.filterMap_append, List.map_append]
    exact hcounted.removeChild hhome
  case messagesCounted =>
    have hcounted := h.messagesCounted
    rw [chatRows, map_rows_split _ hbefore' (ChatRow.ofRecord?_of_holds hchat)] at hcounted
    rw [chatRows, hafter', List.filterMap_append, List.map_append, messageRows, hmessages,
      h.messageRows_filter]
    have hremoved := hcounted.removeParent
    rw [List.filter_map] at hremoved
    exact hremoved

end Sound

/-- **A unit of work keeps the counters right.** -/
theorem Done.sound {α : Type} {operation : Operation α} {records records' : Records} {value : α}
    (hdone : Done operation records records' value) (h : Sound records) : Sound records' := by
  cases hdone with
  | look => exact h
  | createApplication hname hfresh hadded hsame => exact h.addApplication hfresh hadded hsame
  | createChat raised hparent hbefore hafter hfresh hadded hsame =>
      exact h.addChat raised hparent hbefore hafter hfresh hadded hsame
  | createMessage raised hbody happlication hhome hparent hbefore hafter hfresh hadded hsame =>
      exact h.addMessage raised hparent hbefore hafter hadded hsame
  | deleteChat now hparent hchat hhome hbefore hafter hbefore' hafter' hmessages hsame =>
      exact h.removeChat hparent hchat hhome hbefore hafter hbefore' hafter' hmessages

theorem Atomic.sound {α : Type} {operation : Operation α} {s₀ s : State}
    {answer : Except StoreError α} (h : Atomic s₀ (Done operation s₀.records) s answer)
    (hsound : Sound s₀.records) : Sound s.records := by
  cases answer with
  | error e =>
      obtain rfl : s = s₀ := h
      exact hsound
  | ok value =>
      obtain ⟨records, rfl, hdone⟩ := h
      exact hdone.sound hsound

/-- **Operations are atomic under any assignment of faults**, clock readings, ids and tokens, and
they leave counters right that were right before. -/
theorem program_atomic (policy : RetryPolicy) (w : Surroundings) {α : Type}
    (operation : Operation α) (s₀ : State) (n : Nat) (hstored : Stored s₀.records)
    (hidle : s₀.transaction = none) :
    let (answer, s, _) := (program policy operation).run w.answer (s₀, n)
    Atomic s₀ (Done operation s₀.records) s answer ∧ (Sound s₀.records → Sound s.records) := by
  have hensures : (program policy operation).Ensures Faulted
      (Atomic s₀ (Done operation s₀.records)) s₀ := program_ensures_atomic hstored hidle operation
  have hatomic := hensures.of_runs (Program.runs_run Prod.fst w.faulted_answer _ (s₀, n))
  exact ⟨hatomic, hatomic.sound⟩

/-- One application with one chat, which has one message. -/
def smallContents : State where
  records :=
    [(applications, [smallApplication.toRecord]), (chats, [smallChat.toRecord]),
      (messages, [(newMessageRow (.ofNat 3) (.ofNat 2) 1 "b" 0).toRecord])]
  unique := []
  transaction := none
where
  smallApplication : ApplicationRow := ⟨.ofNat 1, "t", "a", 1, 1, 0, 0⟩
  smallChat : ChatRow := ⟨.ofNat 2, .ofNat 1, 1, 1, 1, 0, 0⟩

theorem sound_smallContents : Sound smallContents.records where
  applications record hrecord := by
    obtain rfl : record = _ := List.mem_singleton.mp hrecord
    exact ⟨_, ApplicationRow.holds_toRecord _⟩
  chats record hrecord := by
    obtain rfl : record = _ := List.mem_singleton.mp hrecord
    exact ⟨_, ChatRow.holds_toRecord _⟩
  ids := List.nodup_singleton _
  messages record hrecord := by
    obtain rfl : record = _ := List.mem_singleton.mp hrecord
    exact ⟨_, MessageRow.holds_toRecord _⟩
  chatsCounted := .one _
  messagesCounted := .one _

/-- The removal of the messages is lost once, and the work is run again. -/
def lostRemoval : Surroundings where
  clock n := n
  ids := .ofNat
  tokens _ := "t"
  faults n := if n = 3 then some { cause := .command 112, transient := true } else none

theorem deleteChat_lostRemoval :
    let (answer, s, n) := (program ⟨2, .zero⟩ (.deleteChat "t" 1)).run lostRemoval.answer
      (smallContents, 0)
    answer = .ok () ∧ n = 11 ∧ recordsOf messages s.records = [] ∧
      Atomic smallContents (Done (.deleteChat "t" 1) smallContents.records) s answer ∧
      Sound s.records := by
  obtain ⟨hatomic, hsound⟩ := program_atomic ⟨2, .zero⟩ lostRemoval (.deleteChat "t" 1)
    smallContents 0 sound_smallContents.toStored rfl
  exact ⟨by decide +kernel, by decide +kernel, by decide +kernel, hatomic,
    hsound sound_smallContents⟩

end ChatService.Database
