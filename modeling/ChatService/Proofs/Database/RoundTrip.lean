import ChatService.Proofs.Database.Records
import ChatService.Proofs.Text.Hex
import ChatService.Proofs.Time.Reading
import Mathlib.Data.List.Forall2

/-!
# Stored and read back

A server may give a record back with its fields in another order, with whole numbers in fewer bits
and with fields that it did not have (`ComesBackAs`).  Rows are read from it unchanged all the same:
every field is found by its name, and its value is read alike in either width.

Times lose what is shorter than a millisecond.  They are rounded down, before 1970 as well as after,
so what is read back is the latest whole millisecond that is not after the time (`RoundsDown`), and
of two times the earlier one stays so.
-/

namespace ChatService

/-! ## times in milliseconds -/

namespace Timestamp

variable {t u : Timestamp} {ms : Int}

/-- The moment is exactly some milliseconds after the beginning of 1970. -/
def IsExactly (t : Timestamp) (ms : Int) : Prop :=
  t.nanos < 1000000000 ∧ t.seconds * 1000000000 + t.nanos = ms * 1000000

/-- The calendar reaches a number of milliseconds. -/
def Reaches (ms : Int) : Prop := minSeconds * 1000 ≤ ms ∧ ms ≤ maxSeconds * 1000 + 999

instance (ms : Int) : Decidable (Reaches ms) := inferInstanceAs (Decidable (_ ∧ _))

/-- A moment in range that lies in no leap second. -/
structure IsRegular (t : Timestamp) : Prop where
  valid : t.IsValid
  nanos : t.nanos < 1000000000

/-- The moment without what is shorter than a millisecond. -/
def floorMillis (t : Timestamp) : Timestamp := ⟨t.seconds, t.nanos / 1000000 * 1000000⟩

/-- The latest moment in whole milliseconds that is not after another. -/
structure RoundsDown (t floor : Timestamp) : Prop where
  reading : floor.IsReading
  le : floor.le t = true
  latest : ∀ u : Timestamp, u.IsReading → u.le t = true → u.le floor = true

theorem ofMillis?_of_reaches (h : Reaches ms) :
    ofMillis? ms = some ⟨ms / 1000, (ms % 1000).toNat * 1000000⟩ := by
  have hrange : minSeconds ≤ ms / 1000 ∧ ms / 1000 ≤ maxSeconds := by
    obtain ⟨hmin, hmax⟩ := h
    omega
  rw [ofMillis?, if_pos hrange]

theorem isExactly_of_ofMillis? (h : ofMillis? ms = some t) : t.IsExactly ms := by
  rw [ofMillis?_eq_some h]
  simp only [IsExactly]
  omega

theorem IsRegular.reaches (h : t.IsRegular) : Reaches t.millis := by
  obtain ⟨⟨hmin, hmax, -⟩, hnanos⟩ := h
  simp only [Reaches, millis]
  omega

theorem IsRegular.ofMillis?_millis (h : t.IsRegular) :
    ofMillis? t.millis = some t.floorMillis := by
  have hnanos := h.nanos
  rw [ofMillis?_of_reaches h.reaches]
  simp only [millis, floorMillis, Option.some.injEq, Timestamp.mk.injEq]
  omega

/-- Milliseconds of regular moments fit into 64 bits. -/
theorem IsRegular.isInt64_millis (h : t.IsRegular) : Word.IsInt64 t.millis := by
  obtain ⟨hmin, hmax⟩ := h.reaches
  have hfirst : minSeconds = -8334601228800 := by decide
  have hlast : maxSeconds = 8210266876799 := by decide
  simp only [Word.IsInt64, Word.minInt64, Word.maxInt64]
  omega

theorem IsRegular.roundsDown (h : t.IsRegular) : t.RoundsDown t.floorMillis where
  reading := ⟨t.millis, h.ofMillis?_millis⟩
  le := le_iff.mpr (.inr ⟨rfl, Nat.div_mul_le_self _ _⟩)
  latest := by
    rintro u ⟨ms, hms⟩ hle
    rw [ofMillis?_eq_some hms, le_iff] at hle ⊢
    simp only [floorMillis] at hle ⊢
    omega

/-- Milliseconds are in the order of the moments. -/
theorem millis_le_millis (ht : t.IsRegular) (h : t.le u = true) : t.millis ≤ u.millis := by
  have hnanos := ht.nanos
  rw [le_iff] at h
  simp only [millis]
  omega

theorem floorMillis_le_floorMillis (h : t.le u = true) :
    t.floorMillis.le u.floorMillis = true := by
  rw [le_iff] at h ⊢
  simp only [floorMillis]
  omega

end Timestamp

namespace Database

open Timestamp (IsExactly Reaches IsRegular RoundsDown)

theorem timeOfMillis_isExactly {ms : Int} (h : Reaches ms) : (timeOfMillis ms).IsExactly ms := by
  have hsome := Timestamp.ofMillis?_of_reaches h
  rw [timeOfMillis, hsome, Option.getD_some]
  exact Timestamp.isExactly_of_ofMillis? hsome

theorem timeOfMillis_millis_eq_floorMillis {t : Timestamp} (h : t.IsRegular) :
    timeOfMillis t.millis = t.floorMillis := by
  rw [timeOfMillis, h.ofMillis?_millis, Option.getD_some]

/-! ## records that come back -/

/-- A value as it was, or a whole number in fewer bits. -/
inductive Value.ComesBackAs : Value → Value → Prop where
  | same (v : Value) : ComesBackAs v v
  | narrow (n : Int) : ComesBackAs (.long n) (.int n)

/-- A way to read values that does not depend on how they come back. -/
def IsTolerant {α : Type} (read? : Value → Option α) : Prop :=
  ∀ {v w : Value}, v.ComesBackAs w → read? w = read? v

theorem isTolerant_text? : IsTolerant Value.text? := fun h => by cases h <;> rfl

theorem isTolerant_integer? : IsTolerant Value.integer? := fun h => by cases h <;> rfl

theorem isTolerant_id? : IsTolerant Value.id? := fun h => by cases h <;> rfl

theorem isTolerant_time? : IsTolerant Value.time? := fun h => by cases h <;> rfl

/-- Fields that come back with their names and in their order. -/
def FieldsComeBackAs (stored fields : Record) : Prop :=
  List.Forall₂ (fun a b => a.1 = b.1 ∧ a.2.ComesBackAs b.2) stored fields

/-- A record with the fields of a stored one in any order, and besides only fields with other
names. -/
def ComesBackAs (stored found : Record) : Prop :=
  ∃ fields more, FieldsComeBackAs stored fields ∧ found.Perm (fields ++ more) ∧
    ∀ entry ∈ more, entry.1 ∉ Keyed.keys stored

variable {stored fields found : Record} {name : String} {value : Value}

theorem FieldsComeBackAs.keys_eq (h : FieldsComeBackAs stored fields) :
    Keyed.keys fields = Keyed.keys stored := by
  induction h with
  | nil => rfl
  | cons hentry _ ih => rw [Keyed.keys_cons, Keyed.keys_cons, hentry.1, ih]

theorem FieldsComeBackAs.get? (h : FieldsComeBackAs stored fields)
    (hvalue : Keyed.get? name stored = some value) :
    ∃ value', Keyed.get? name fields = some value' ∧ value.ComesBackAs value' := by
  induction h with
  | nil => simp [Keyed.get?] at hvalue
  | @cons a b _ _ hentry _ ih =>
      by_cases hname : a.1 = name
      · obtain rfl : a.2 = value := by simpa [Keyed.get?, hname] using hvalue
        exact ⟨b.2, by simp [Keyed.get?, ← hentry.1, hname], hentry.2⟩
      · obtain ⟨value', hvalue', hcomes⟩ := ih (by simpa [Keyed.get?, hname] using hvalue)
        exact ⟨value', by simpa [Keyed.get?, ← hentry.1, hname] using hvalue', hcomes⟩

/-- A field is found by its name wherever it stands. -/
theorem ComesBackAs.get? (h : ComesBackAs stored found) (hnodup : (Keyed.keys stored).Nodup)
    (hvalue : Keyed.get? name stored = some value) :
    ∃ value', Keyed.get? name found = some value' ∧ value.ComesBackAs value' := by
  obtain ⟨fields, more, hfields, hperm, hmore⟩ := h
  obtain ⟨value', hvalue', hcomes⟩ := hfields.get? hvalue
  have hname : name ∈ Keyed.keys stored := by
    by_contra hnone
    rw [Keyed.get?_eq_none_iff.mpr hnone] at hvalue
    contradiction
  have hmem : (name, value') ∈ found :=
    hperm.mem_iff.mpr (List.mem_append_left _ (Keyed.mem_of_get?_eq_some hvalue'))
  cases hfound : Keyed.get? name found with
  | none => exact absurd (Keyed.mem_keys_of_mem hmem) (Keyed.get?_eq_none_iff.mp hfound)
  | some other =>
      have hother := hperm.mem_iff.mp (Keyed.mem_of_get?_eq_some hfound)
      rcases List.mem_append.mp hother with hother | hother
      · -- No name stands twice among the fields, so this is the field that was found there.
        have hsame := (Keyed.get?_eq_some_iff_mem (hfields.keys_eq ▸ hnodup)).mpr hother
        rw [hvalue'] at hsame
        exact ⟨other, rfl, Option.some.inj hsame ▸ hcomes⟩
      · exact absurd hname (hmore _ hother)

/-- A field of a record reads as a value does. -/
def ReadsAs (record : Record) (field : String × Value) : Prop :=
  ∀ {α : Type} {read? : Value → Option α}, IsTolerant read? →
    field? record field.1 read? = read? field.2

theorem ComesBackAs.readsAs (h : ComesBackAs stored found) (hnodup : (Keyed.keys stored).Nodup) :
    ∀ field ∈ stored, ReadsAs found field := by
  intro field hfield α read? hread
  obtain ⟨value, hvalue, hcomes⟩ :=
    h.get? hnodup ((Keyed.get?_eq_some_iff_mem hnodup).mpr hfield)
  rw [field?, hvalue, Option.bind_some, hread hcomes]

/-! ## rows that are read back -/

theorem ApplicationRow.ofRecord?_of_comesBackAs {row : ApplicationRow}
    (h : ComesBackAs row.toRecord found) : ofRecord? found = some row := by
  have hreads := h.readsAs (by simp [toRecord])
  simp only [toRecord, List.forall_mem_cons, List.not_mem_nil, false_implies, implies_true,
    and_true] at hreads
  obtain ⟨hid, htoken, hname, hcount, hlast, hcreated, hupdated⟩ := hreads
  simp [ofRecord?, hid isTolerant_id?, htoken isTolerant_text?, hname isTolerant_text?,
    hcount isTolerant_integer?, hlast isTolerant_integer?, hcreated isTolerant_time?,
    hupdated isTolerant_time?, Value.id?, Value.text?, Value.integer?, Value.time?]

theorem ChatRow.ofRecord?_of_comesBackAs {row : ChatRow}
    (h : ComesBackAs row.toRecord found) : ofRecord? found = some row := by
  have hreads := h.readsAs (by simp [toRecord])
  simp only [toRecord, List.forall_mem_cons, List.not_mem_nil, false_implies, implies_true,
    and_true] at hreads
  obtain ⟨hid, happlication, hnumber, hcount, hlast, hcreated, hupdated⟩ := hreads
  simp [ofRecord?, hid isTolerant_id?, happlication isTolerant_id?, hnumber isTolerant_integer?,
    hcount isTolerant_integer?, hlast isTolerant_integer?, hcreated isTolerant_time?,
    hupdated isTolerant_time?, Value.id?, Value.integer?, Value.time?]

theorem MessageRow.ofRecord?_of_comesBackAs {row : MessageRow}
    (h : ComesBackAs row.toRecord found) : ofRecord? found = some row := by
  have hreads := h.readsAs (by simp [toRecord])
  simp only [toRecord, List.forall_mem_cons, List.not_mem_nil, false_implies, implies_true,
    and_true] at hreads
  obtain ⟨hid, hchat, hnumber, hbody, hcreated, hupdated⟩ := hreads
  simp [ofRecord?, hid isTolerant_id?, hchat isTolerant_id?, hnumber isTolerant_integer?,
    hbody isTolerant_text?, hcreated isTolerant_time?, hupdated isTolerant_time?, Value.id?,
    Value.text?, Value.integer?, Value.time?]

/-! ## models -/

/-- The digits of an id read back as the id. -/
theorem ObjectId.ofHex?_hex (id : ObjectId) : ofHex? id.hex = some id := by
  have hlength : id.hex.toList.length = 24 := by simp [hex, Text.length_hexDigits]
  rw [ofHex?, if_pos hlength, hex, String.toList_ofList, Text.hexNumber?_hexDigits id.isLt,
    Option.map_some]
  simp only [ofNat, Nat.mod_eq_of_lt id.isLt]

/-- A model says what a row says: the same values, ids by their digits, and the very moments that
are stored where the calendar reaches them. -/
structure ApplicationRow.IsShownBy (row : ApplicationRow) (a : Store.Application) : Prop where
  id : ObjectId.ofHex? a.id = some row.id
  token : a.token = row.token
  name : a.name = row.name
  chatsCount : a.chatsCount = row.chatsCount
  lastChatNumber : a.lastChatNumber = row.lastChatNumber
  createdAt : Reaches row.createdAt → a.createdAt.IsExactly row.createdAt
  updatedAt : Reaches row.updatedAt → a.updatedAt.IsExactly row.updatedAt

@[inherit_doc ApplicationRow.IsShownBy]
structure ChatRow.IsShownBy (row : ChatRow) (c : Store.Chat) : Prop where
  id : ObjectId.ofHex? c.id = some row.id
  applicationId : ObjectId.ofHex? c.applicationId = some row.applicationId
  number : c.number = row.number
  messagesCount : c.messagesCount = row.messagesCount
  lastMessageNumber : c.lastMessageNumber = row.lastMessageNumber
  createdAt : Reaches row.createdAt → c.createdAt.IsExactly row.createdAt
  updatedAt : Reaches row.updatedAt → c.updatedAt.IsExactly row.updatedAt

@[inherit_doc ApplicationRow.IsShownBy]
structure MessageRow.IsShownBy (row : MessageRow) (m : Store.Message) : Prop where
  id : ObjectId.ofHex? m.id = some row.id
  chatId : ObjectId.ofHex? m.chatId = some row.chatId
  number : m.number = row.number
  body : m.body = row.body
  createdAt : Reaches row.createdAt → m.createdAt.IsExactly row.createdAt
  updatedAt : Reaches row.updatedAt → m.updatedAt.IsExactly row.updatedAt

theorem ApplicationRow.isShownBy_toModel (row : ApplicationRow) : row.IsShownBy row.toModel where
  id := row.id.ofHex?_hex
  token := rfl
  name := rfl
  chatsCount := rfl
  lastChatNumber := rfl
  createdAt := timeOfMillis_isExactly
  updatedAt := timeOfMillis_isExactly

theorem ChatRow.isShownBy_toModel (row : ChatRow) : row.IsShownBy row.toModel where
  id := row.id.ofHex?_hex
  applicationId := row.applicationId.ofHex?_hex
  number := rfl
  messagesCount := rfl
  lastMessageNumber := rfl
  createdAt := timeOfMillis_isExactly
  updatedAt := timeOfMillis_isExactly

theorem MessageRow.isShownBy_toModel (row : MessageRow) : row.IsShownBy row.toModel where
  id := row.id.ofHex?_hex
  chatId := row.chatId.ofHex?_hex
  number := rfl
  body := rfl
  createdAt := timeOfMillis_isExactly
  updatedAt := timeOfMillis_isExactly

/-! ## there and back -/

/-- The time that a stored value stands for. -/
def storedTime? (value : Value) : Option Timestamp := value.time?.map timeOfMillis

/-- A type of rows that are read back from whatever their records come back as, and whose models
say what they say. -/
structure RoundTrips {ρ μ : Type} (toRecord : ρ → Record) (ofRecord? : Record → Option ρ)
    (toModel : ρ → μ) (IsShownBy : ρ → μ → Prop) : Prop where
  read : ∀ row found, ComesBackAs (toRecord row) found → ofRecord? found = some row
  shown : ∀ row, IsShownBy row (toModel row)

/-- **Rows and times come back**: every row unchanged, from its fields in any order, whole numbers
in either width and whatever else is in the record, with a model that says the same; and every time
rounded down to the millisecond, so that no two change their order, stored or read back. -/
theorem rows_and_times_come_back :
    RoundTrips ApplicationRow.toRecord ApplicationRow.ofRecord? ApplicationRow.toModel
        ApplicationRow.IsShownBy ∧
      RoundTrips ChatRow.toRecord ChatRow.ofRecord? ChatRow.toModel ChatRow.IsShownBy ∧
      RoundTrips MessageRow.toRecord MessageRow.ofRecord? MessageRow.toModel
        MessageRow.IsShownBy ∧
      (∀ t : Timestamp, t.IsRegular →
        Word.IsInt64 t.millis ∧ storedTime? (timeValue t) = some t.floorMillis ∧
          t.RoundsDown t.floorMillis) ∧
      ∀ t u : Timestamp, t.IsRegular → u.IsRegular → t.le u = true →
        (timeValue t).le (timeValue u) = true ∧ t.floorMillis.le u.floorMillis = true := by
  refine ⟨⟨fun _ _ => ApplicationRow.ofRecord?_of_comesBackAs, ApplicationRow.isShownBy_toModel⟩,
    ⟨fun _ _ => ChatRow.ofRecord?_of_comesBackAs, ChatRow.isShownBy_toModel⟩,
    ⟨fun _ _ => MessageRow.ofRecord?_of_comesBackAs, MessageRow.isShownBy_toModel⟩, ?_, ?_⟩
  · intro t ht
    have hback : storedTime? (timeValue t) = some t.floorMillis := by
      rw [← timeOfMillis_millis_eq_floorMillis ht]
      rfl
    exact ⟨ht.isInt64_millis, hback, ht.roundsDown⟩
  · intro t u ht _ hle
    have hstored : (timeValue t).le (timeValue u) = true :=
      decide_eq_true (Timestamp.millis_le_millis ht hle)
    exact ⟨hstored, Timestamp.floorMillis_le_floorMillis hle⟩

/-- A chat that was created in the last millisecond before 1970. -/
def earlyChat : ChatRow := ⟨.ofNat 2, .ofNat 1, 7, 3, 4, -1, 1714557600123⟩

/-- Its record with the fields in reverse, two narrow numbers and a field more. -/
def earlyChatFound : Record :=
  [("updated_at", .time 1714557600123), ("created_at", .time (-1)), ("unknown", .null),
    ("last_message_number", .int 4), ("messages_count", .long 3), ("number", .int 7),
    ("application_id", .objectId (.ofNat 1)), ("_id", .objectId (.ofNat 2))]

theorem earlyChat_comesBack : ComesBackAs earlyChat.toRecord earlyChatFound := by
  refine ⟨[("_id", .objectId (.ofNat 2)), ("application_id", .objectId (.ofNat 1)),
    ("number", .int 7), ("messages_count", .long 3), ("last_message_number", .int 4),
    ("created_at", .time (-1)), ("updated_at", .time 1714557600123)], [("unknown", .null)],
    ?_, by decide, by decide⟩
  exact .cons ⟨rfl, .same _⟩ <| .cons ⟨rfl, .same _⟩ <| .cons ⟨rfl, .narrow _⟩ <|
    .cons ⟨rfl, .same _⟩ <| .cons ⟨rfl, .narrow _⟩ <| .cons ⟨rfl, .same _⟩ <|
      .cons ⟨rfl, .same _⟩ .nil

/-- The chat is read back, its model shows the stored moment, and the last nanosecond before 1970
comes back as the millisecond that it belongs to. -/
theorem earlyChat_and_time_come_back :
    ComesBackAs earlyChat.toRecord earlyChatFound ∧
      ChatRow.ofRecord? earlyChatFound = some earlyChat ∧
      Reaches earlyChat.createdAt ∧ earlyChat.toModel.createdAt.IsExactly earlyChat.createdAt ∧
      (⟨-1, 999999999⟩ : Timestamp).IsRegular ∧
      storedTime? (timeValue ⟨-1, 999999999⟩) = some ⟨-1, 999000000⟩ ∧
      (timeValue ⟨-1, 999999999⟩).le (timeValue .epoch) = true := by
  obtain ⟨-, hchats, -, htimes, horder⟩ := rows_and_times_come_back
  have hreaches : Reaches earlyChat.createdAt := by decide
  have hlast : (⟨-1, 999999999⟩ : Timestamp).IsRegular := ⟨by decide, by decide⟩
  have hepoch : Timestamp.epoch.IsRegular := ⟨by decide, by decide⟩
  exact ⟨earlyChat_comesBack, hchats.read _ _ earlyChat_comesBack, hreaches,
    (hchats.shown earlyChat).createdAt hreaches, hlast, (htimes _ hlast).2.1,
    (horder _ _ hlast hepoch (by decide)).1⟩

end Database

end ChatService
