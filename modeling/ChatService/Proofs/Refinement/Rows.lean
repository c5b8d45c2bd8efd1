import ChatService.Proofs.Database.Order
import ChatService.Proofs.Memory.Invariant
import ChatService.Proofs.Store.Outcome
import ChatService.Proofs.Time.Reading

/-!
# One item in both stores

What memory keeps as a model, the database keeps as a row.  Both know it by an internal id of their
own: memory by a count, the database by the object id that was fresh when the item was created.
Object ids grow, so the two agree on which of two items is the later one, and a row that is read
back is the model with its ids renamed.
-/

namespace ChatService.Refinement

open Database (ObjectId ApplicationRow ChatRow MessageRow timeOfMillis)
open Memory (idText idText_le_idText Used)
open Store (Application Message)

variable {ids : Nat → ObjectId} {s : Memory.State} {a b : String} {i j last : Nat}

/-! ## internal ids -/

/-- The object id of the item that memory knows under an id. -/
def objectId (ids : Nat → ObjectId) (text : String) : ObjectId :=
  ids ((Text.hexNumber? text.toList).getD 0)

/-- The id that the database answers for the item that memory knows under an id. -/
def renamedId (ids : Nat → ObjectId) (text : String) : String := (objectId ids text).hex

/-- The first object ids grow. -/
def Increasing (ids : Nat → ObjectId) (last : Nat) : Prop :=
  ∀ i j, 1 ≤ i → i < j → j ≤ last → (ids i).number < (ids j).number

theorem Increasing.of_le (h : Increasing ids last) {last' : Nat} (hle : last' ≤ last) :
    Increasing ids last' := fun i j hi hlt hj => h i j hi hlt (Nat.le_trans hj hle)

theorem objectId_idText (ids : Nat → ObjectId) (h : i < 16 ^ 24) :
    objectId ids (idText i) = ids i := by
  rw [objectId, idText, String.toList_ofList, Text.hexNumber?_hexDigits h, Option.getD_some]

/-- The `i`-th id is replaced by the `i`-th object id. -/
theorem renamedId_idText (ids : Nat → ObjectId) (h : i < 16 ^ 24) :
    renamedId ids (idText i) = (ids i).hex := by
  rw [renamedId, objectId_idText ids h]

theorem Increasing.number_le (h : Increasing ids last) (hi : 1 ≤ i) (hj : 1 ≤ j) (hi' : i ≤ last)
    (hj' : j ≤ last) : (ids i).number ≤ (ids j).number ↔ i ≤ j := by
  constructor
  · intro hle
    by_cases hlt : j < i
    · have := h j i hj hlt hi'
      omega
    · omega
  · intro hle
    by_cases hlt : i < j
    · exact Nat.le_of_lt (h i j hi hlt hj')
    · obtain rfl : i = j := by omega
      exact Nat.le_refl _

/-- Both stores agree on which of two items is the later one. -/
theorem Increasing.objectId_le (h : Increasing ids s.ids) (hfew : s.ids < 16 ^ 24)
    (ha : Used s a) (hb : Used s b) : (objectId ids a).le (objectId ids b) = decide (a ≤ b) := by
  obtain ⟨i, hi, hi', rfl⟩ := ha
  obtain ⟨j, hj, hj', rfl⟩ := hb
  rw [objectId_idText ids (by omega), objectId_idText ids (by omega), ObjectId.le]
  exact decide_eq_decide.mpr <|
    (h.number_le hi hj hi' hj').trans (idText_le_idText (by omega) (by omega)).symm

/-- No two items share an object id. -/
theorem Increasing.objectId_inj (h : Increasing ids s.ids) (hfew : s.ids < 16 ^ 24)
    (ha : Used s a) (hb : Used s b) : objectId ids a = objectId ids b ↔ a = b := by
  constructor
  · intro heq
    have hrefl : (objectId ids b).le (objectId ids b) = true := by simp [ObjectId.le]
    have hab := h.objectId_le hfew ha hb
    have hba := h.objectId_le hfew hb ha
    rw [heq, hrefl] at hab hba
    exact Std.le_antisymm (of_decide_eq_true hab.symm) (of_decide_eq_true hba.symm)
  · intro heq
    rw [heq]

/-- No two ids are replaced by one. -/
theorem Increasing.renamedId_inj (h : Increasing ids s.ids) (hfew : s.ids < 16 ^ 24)
    (ha : Used s a) (hb : Used s b) : renamedId ids a = renamedId ids b ↔ a = b := by
  rw [← h.objectId_inj hfew ha hb]
  constructor
  · intro heq
    rw [renamedId, renamedId, ObjectId.hex, ObjectId.hex, String.ofList_inj] at heq
    have hnumber := (Text.hexDigits_inj (objectId ids a).isLt (objectId ids b).isLt).mp heq
    cases hx : objectId ids a
    cases hy : objectId ids b
    simp only [hx, hy] at hnumber
    subst hnumber
    rfl
  · intro heq
    rw [renamedId, renamedId, heq]

/-- An id that is handed out next is no item's. -/
theorem Increasing.ne_next (h : Increasing ids (s.ids + 1)) (hfew : s.ids < 16 ^ 24)
    (ha : Used s a) : objectId ids a ≠ ids (s.ids + 1) := by
  obtain ⟨i, hi, hi', rfl⟩ := ha
  rw [objectId_idText ids (by omega)]
  intro heq
  have := h i (s.ids + 1) hi (by omega) (Nat.le_refl _)
  rw [heq] at this
  omega

/-! ## rows -/

/-- The row of an application. -/
def applicationRow (ids : Nat → ObjectId) (a : Application) : ApplicationRow :=
  { id := objectId ids a.id, token := a.token, name := a.name, chatsCount := a.chatsCount
    lastChatNumber := a.lastChatNumber, createdAt := a.createdAt.millis
    updatedAt := a.updatedAt.millis }

/-- The row of a chat. -/
def chatRow (ids : Nat → ObjectId) (c : Store.Chat) : ChatRow :=
  { id := objectId ids c.id, applicationId := objectId ids c.applicationId, number := c.number
    messagesCount := c.messagesCount, lastMessageNumber := c.lastMessageNumber
    createdAt := c.createdAt.millis, updatedAt := c.updatedAt.millis }

/-- The row of a message. -/
def messageRow (ids : Nat → ObjectId) (m : Message) : MessageRow :=
  { id := objectId ids m.id, chatId := objectId ids m.chatId, number := m.number, body := m.body
    createdAt := m.createdAt.millis, updatedAt := m.updatedAt.millis }

theorem timeOfMillis_millis_eq_self {t : Timestamp} (h : t.IsReading) :
    timeOfMillis t.millis = t := by
  rw [timeOfMillis, h.ofMillis?_millis, Option.getD_some]

/-- A row is read back as the model with its id renamed. -/
theorem toModel_applicationRow {a : Application} (hcreated : a.createdAt.IsReading)
    (hupdated : a.updatedAt.IsReading) :
    (applicationRow ids a).toModel = a.renamed (renamedId ids) := by
  simp [applicationRow, ApplicationRow.toModel, Application.renamed, renamedId,
    timeOfMillis_millis_eq_self hcreated, timeOfMillis_millis_eq_self hupdated]

@[inherit_doc toModel_applicationRow]
theorem toModel_chatRow {c : Store.Chat} (hcreated : c.createdAt.IsReading)
    (hupdated : c.updatedAt.IsReading) : (chatRow ids c).toModel = c.renamed (renamedId ids) := by
  simp [chatRow, ChatRow.toModel, Store.Chat.renamed, renamedId,
    timeOfMillis_millis_eq_self hcreated, timeOfMillis_millis_eq_self hupdated]

@[inherit_doc toModel_applicationRow]
theorem toModel_messageRow {m : Message} (hcreated : m.createdAt.IsReading)
    (hupdated : m.updatedAt.IsReading) :
    (messageRow ids m).toModel = m.renamed (renamedId ids) := by
  simp [messageRow, MessageRow.toModel, Message.renamed, renamedId,
    timeOfMillis_millis_eq_self hcreated, timeOfMillis_millis_eq_self hupdated]

/-! ## the order of listings -/

/-- Both stores list applications in one order. -/
theorem inOrder_rows_eq_newestFirst {a b : Application} (h : Increasing ids s.ids)
    (hfew : s.ids < 16 ^ 24) (ha : Used s a.id) (hb : Used s b.id)
    (hcreated : a.createdAt.IsReading) (hcreated' : b.createdAt.IsReading) :
    Database.Server.inOrder Database.newestFirst (applicationRow ids a).toRecord
      (applicationRow ids b).toRecord = Memory.newestFirst a b := by
  have hle : (objectId ids b.id).number ≤ (objectId ids a.id).number ↔ b.id ≤ a.id :=
    decide_eq_decide.mp (h.objectId_le hfew hb ha)
  have htimes := hcreated.millis_inj hcreated'
  have hearlier := hcreated'.le_eq hcreated
  have hrows : Database.Server.inOrder Database.newestFirst (applicationRow ids a).toRecord
      (applicationRow ids b).toRecord = decide (b.createdAt.millis < a.createdAt.millis ∨
        a.createdAt.millis = b.createdAt.millis ∧
          (objectId ids b.id).number ≤ (objectId ids a.id).number) :=
    Database.Server.inOrder_newestFirst rfl rfl rfl rfl
  simp only [hrows, hle, htimes, Memory.newestFirst]
  by_cases hsame : a.createdAt = b.createdAt
  · simp [hsame]
  · have hne : a.createdAt.millis ≠ b.createdAt.millis := fun heq => hsame (htimes.mp heq)
    simp only [hsame, hearlier, false_and, or_false, if_false]
    exact decide_eq_decide.mpr ⟨Int.le_of_lt, fun hle => Int.lt_iff_le_and_ne.mpr ⟨hle, hne.symm⟩⟩

theorem inOrder_byNumber_chat (a b : Store.Chat) :
    Database.Server.inOrder Database.byNumber (chatRow ids a).toRecord (chatRow ids b).toRecord =
      decide (a.number ≤ b.number) := Database.Server.inOrder_byNumber rfl rfl

theorem inOrder_byNumber_message (a b : Message) :
    Database.Server.inOrder Database.byNumber (messageRow ids a).toRecord
      (messageRow ids b).toRecord = decide (a.number ≤ b.number) :=
  Database.Server.inOrder_byNumber rfl rfl

end ChatService.Refinement
