import ChatService.Proofs.Database.Children
import ChatService.Proofs.Memory.Sequential

/-!
# Any counters in the two stores

Memory checks the counters of a parent before it changes them; the database lets the server add and
looks at the old number afterwards.  Whatever the counters hold, where the checked arithmetic allows
a child the database adds it under the same number and keeps the same count, unless a child has that
number already, and where an operation of the database fails nothing is changed.
-/

namespace ChatService.Refinement

open Database (ApplicationRow ChatRow Kind Reading Record program)
open Database.Server (State recordsOf isMatch)
open Memory (Connected Moment perform)
open Store (CounterUpdate RetryPolicy allocated nextAfter)

variable {ρ α : Type}

/-! ## what is compared -/

/-- What the database does to add a child, compared with the checked arithmetic on the counters of
the parent. -/
structure AddsAs (k : Kind ρ α) (policy : RetryPolicy) (r : Reading) (s : State) (n : Nat)
    (parent : Record) (row : ρ) (count : Int) (outcome : Except StoreError α × State × Nat) :
    Prop where
  /-- What the arithmetic allows is done, with its number and its count, if the number is free.
  Such a count is not negative. -/
  allowed : ∀ number count', allocated k.field (k.last row) count = .ok (number, count') →
    ¬ k.Taken s.records row number →
      0 ≤ count' ∧ outcome.1 = .ok (k.value row (r.ids (n + 1)) number r.ms) ∧
        k.Added parent row count' number r.ms (r.ids (n + 1)) s.records outcome.2.1.records
  /-- A number that a child has already is a conflict in every attempt. -/
  taken : ∀ number count', allocated k.field (k.last row) count = .ok (number, count') →
    k.Taken s.records row number →
      outcome.1 = .error (RetryPolicy.exhausted ("number allocation for " ++ k.scope.name)
        (max 1 policy.maxAttempts))
  /-- A negative last number is the same error, as long as the server can raise the count. -/
  negative : ∀ e, allocated k.field (k.last row) count = .error e → k.last row < 0 →
    Word.IsInt64 (count + 1) → outcome.1 = .error e
  /-- A count that the server cannot raise is a failure of the database. -/
  overflowed : ∀ number, nextAfter (k.last row) = .ok number → ¬ Word.IsInt64 (count + 1) →
    ∃ detail, outcome.1 = .error (.database detail)
  /-- Without a next number there is no child. -/
  unnumbered : ∀ e, nextAfter (k.last row) = .error e → ∃ e', outcome.1 = .error e'
  /-- Any child that is added has the next number, and is counted once. -/
  added : ∀ value, outcome.1 = .ok value → ∃ number, nextAfter (k.last row) = .ok number ∧
    value = k.value row (r.ids (n + 1)) number r.ms ∧
      k.Added parent row (count + 1) number r.ms (r.ids (n + 1)) s.records outcome.2.1.records
  /-- A failure changes nothing. -/
  failed : ∀ e, outcome.1 = .error e → outcome.2.1 = s

/-- What the database does to delete a chat, compared with the checked arithmetic on the count of
the application. -/
structure RemovesAs (r : Reading) (s : State) (parent : Record) (application : ApplicationRow)
    (number : Int) (chat : ChatRow) (outcome : Except StoreError Unit × State × Nat) : Prop where
  allowed : ∀ count,
    (CounterUpdate.decrement .chats).apply application.chatsCount = .ok count →
      0 ≤ count ∧ outcome.1 = .ok () ∧
        Database.ChatRemoved parent application.id number chat count r.ms s.records
          outcome.2.1.records
  overflowed : ¬ Word.IsInt64 (application.chatsCount - 1) →
    ∃ detail, outcome.1 = .error (.database detail)
  removed : outcome.1 = .ok () →
    Database.ChatRemoved parent application.id number chat (application.chatsCount - 1) r.ms
      s.records outcome.2.1.records
  failed : ∀ e, outcome.1 = .error e → outcome.2.1 = s

/-- An application that a server without a transaction finds by its token.  Ids and numbers of
children are unique, and the next ids are fresh; the counters may hold anything. -/
structure Held (r : Reading) (s : State) (token : String) (parent : Record)
    (application : ApplicationRow) : Prop where
  idle : s.transaction = none
  chatKeys : Keyed.get? Database.chats s.unique = some [["application_id", "number"]]
  messageKeys : Keyed.get? Database.messages s.unique = some [["chat_id", "number"]]
  ids : ((recordsOf Database.applications s.records).map (Keyed.get? "_id")).Nodup
  freshChat : ∀ i, Database.IdFree Database.chats (r.ids i) s.records
  freshMessage : ∀ i, Database.IdFree Database.messages (r.ids i) s.records
  found : (recordsOf Database.applications s.records).find? (isMatch (Database.tokenIs token)) =
    some parent
  holds : Database.Holds parent application.toRecord
  last : Word.IsInt64 application.lastChatNumber

/-- A chat that the server finds by its number. -/
structure HeldChat (s : State) (application : ApplicationRow) (number : Int) (chatRecord : Record)
    (chat : ChatRow) : Prop where
  found : (recordsOf Database.chats s.records).find?
    (isMatch (Database.chatIs application.id number)) = some chatRecord
  holds : Database.Holds chatRecord chat.toRecord
  last : Word.IsInt64 chat.lastMessageNumber

/-! ## adding -/

section Adding

variable {k : Kind ρ α} {policy : RetryPolicy} {r : Reading} {s : State} {n : Nat}
  {parent : Record} {row : ρ} {count number count' : Int}
  {outcome : Except StoreError α × State × Nat}

/-- What the arithmetic allows is in range for the server. -/
theorem in_range_of_allocated
    (h : allocated k.field (k.last row) count = .ok (number, count')) :
    nextAfter (k.last row) = .ok number ∧ count' = count + 1 ∧ 0 ≤ count' ∧
      Word.IsInt64 (count + 1) ∧ Word.IsInt64 (k.last row + 1) := by
  obtain ⟨hnumber, hcount⟩ := Store.allocated_eq_ok.mp h
  have hlast := Store.isInt64_of_nextAfter hnumber
  have hsum := CounterUpdate.isInt64_of_apply hcount
  rw [(Store.nextAfter_eq_ok hnumber).2] at hlast
  obtain ⟨heq, hnonneg⟩ := CounterUpdate.apply_eq_ok hcount
  exact ⟨hnumber, heq, hnonneg, heq ▸ hsum, hlast⟩

/-- Where the server cannot count on, the arithmetic allows no child. -/
theorem allocated_ne_ok (hrange : ¬ (Word.IsInt64 (count + 1) ∧ Word.IsInt64 (k.last row + 1)))
    (number count' : Int) : allocated k.field (k.last row) count ≠ .ok (number, count') := by
  intro hallocated
  obtain ⟨-, -, -, hcount, hnext⟩ := in_range_of_allocated hallocated
  exact hrange ⟨hcount, hnext⟩

/-- The arithmetic allows a child under no other number than the next one. -/
theorem number_of_allocated {number' : Int} (hnumber : nextAfter (k.last row) = .ok number)
    (h : allocated k.field (k.last row) count = .ok (number', count')) : number' = number :=
  Except.ok.inj ((in_range_of_allocated h).1.symm.trans hnumber)

theorem isInt64_succ_of_neg {last : Int} (h : Word.IsInt64 last) (hnegative : last < 0) :
    Word.IsInt64 (last + 1) := by
  unfold Word.IsInt64 Word.minInt64 Word.maxInt64 at *
  omega

/-- **Adding a child agrees with the checked arithmetic**, for any counters of its parent. -/
theorem addsAs_of_outcome (hlast : Word.IsInt64 (k.last row))
    (h : k.Outcome policy r s n parent row count outcome) :
    AddsAs k policy r s n parent row count outcome := by
  cases h with
  | refused hrange =>
      exact
        { allowed := fun _ _ hallocated => absurd hallocated (allocated_ne_ok hrange _ _)
          taken := fun _ _ hallocated => absurd hallocated (allocated_ne_ok hrange _ _)
          negative := fun _ _ hnegative hcount =>
            absurd ⟨hcount, isInt64_succ_of_neg hlast hnegative⟩ hrange
          overflowed := fun _ _ _ => ⟨_, rfl⟩
          unnumbered := fun _ _ => ⟨_, rfl⟩
          added := by simp
          failed := fun _ _ => rfl }
  | unnumbered hrange he =>
      have herror := Store.allocated_of_nextAfter_error k.field count he
      refine
        { allowed := by simp [herror]
          taken := by simp [herror]
          negative := ?_
          overflowed := by simp [he]
          unnumbered := fun _ _ => ⟨_, rfl⟩
          added := by simp
          failed := fun _ _ => rfl }
      intro e hallocated _ _
      rw [herror] at hallocated
      exact congrArg _ (Except.error.inj hallocated)
  | taken hrange hnumber htaken =>
      have hnonneg := (Store.nextAfter_eq_ok hnumber).1
      refine
        { allowed := ?_
          taken := fun _ _ _ _ => rfl
          negative := fun _ _ hnegative => absurd hnonneg (Int.not_le.mpr hnegative)
          overflowed := fun _ _ hover => absurd hrange hover
          unnumbered := by simp [hnumber]
          added := by simp
          failed := fun _ _ => rfl }
      intro number' count' hallocated hfree
      obtain rfl := number_of_allocated hnumber hallocated
      exact absurd htaken hfree
  | added hrange hnumber hfree hadded =>
      have hnonneg := (Store.nextAfter_eq_ok hnumber).1
      refine
        { allowed := ?_
          taken := ?_
          negative := fun _ _ hnegative => absurd hnonneg (Int.not_le.mpr hnegative)
          overflowed := fun _ _ hover => absurd hrange hover
          unnumbered := by simp [hnumber]
          added := fun value hvalue => ⟨_, hnumber, (Except.ok.inj hvalue).symm, hadded⟩
          failed := by simp }
      · intro number' count' hallocated _
        obtain rfl := number_of_allocated hnumber hallocated
        obtain ⟨-, rfl, hcount, -⟩ := in_range_of_allocated hallocated
        exact ⟨hcount, rfl, hadded⟩
      · intro number' count' hallocated htaken
        obtain rfl := number_of_allocated hnumber hallocated
        exact absurd htaken hfree

end Adding

/-! ## what the server finds -/

section Finding

variable {r : Reading} {policy : RetryPolicy} {s : State} {n : Nat} {token : String}
  {parent chatRecord : Record} {application : ApplicationRow} {number : Int} {chat : ChatRow}

theorem Held.finds (h : Held r s token parent application) :
    (Database.chatKind token).Finds s parent application application.chatsCount where
  idle := h.idle
  unique := h.chatKeys
  found := h.found
  read := ApplicationRow.ofRecord?_of_holds h.holds
  count := (ApplicationRow.fields_of_holds h.holds).2.2.1
  last := (ApplicationRow.fields_of_holds h.holds).2.2.2

theorem Held.finds_chat (h : Held r s token parent application)
    (hchat : HeldChat s application number chatRecord chat) (body : String) :
    (Database.messageKind application.id token number body).Finds s chatRecord chat
      chat.messagesCount where
  idle := h.idle
  unique := h.messageKeys
  found := hchat.found
  read := ChatRow.ofRecord?_of_holds hchat.holds
  count := (ChatRow.fields_of_holds hchat.holds).2.2.2.1
  last := (ChatRow.fields_of_holds hchat.holds).2.2.2.2

/-- No other application has the id. -/
theorem Held.find?_idIs (h : Held r s token parent application) :
    (recordsOf Database.applications s.records).find?
      (isMatch (Database.idIs application.id)) = some parent := by
  have hid := (ApplicationRow.fields_of_holds h.holds).1
  have hparent := List.mem_of_find?_eq_some h.found
  cases hfind : (recordsOf Database.applications s.records).find?
      (isMatch (Database.idIs application.id)) with
  | none =>
      exact absurd (Database.Server.isMatch_idIs.mpr hid)
        (List.find?_eq_none.mp hfind parent hparent)
  | some other =>
      have hother := Database.Server.isMatch_idIs.mp (List.find?_some hfind)
      rw [List.inj_on_of_nodup_map h.ids (List.mem_of_find?_eq_some hfind) hparent
        (hother.trans hid.symm)]

theorem Held.findsChat (h : Held r s token parent application)
    (hchat : HeldChat s application number chatRecord chat) :
    Database.FindsChat s parent application number chatRecord chat where
  idle := h.idle
  home := h.find?_idIs
  count := (ApplicationRow.fields_of_holds h.holds).2.2.1
  found := hchat.found
  read := ChatRow.ofRecord?_of_holds hchat.holds

theorem Held.exec_applicationRow (h : Held r s token parent application) :
    (Database.applicationRow token).exec r (s, n) = (.ok application, s, n) := by
  have hread : Database.rowOrError ApplicationRow.ofRecord? (.applicationNotFound token)
      ((recordsOf Database.applications s.records).find?
        (isMatch (Database.tokenIs token))) = .ok application := by
    rw [h.found, Database.rowOrError, Database.rowOf, ApplicationRow.ofRecord?_of_holds h.holds]
  refine (Database.Script.exec_bind_of_ok (Database.Script.exec_send_none _)).trans ?_
  rw [Database.Script.exec_ofExcept, hread]
  rfl

theorem exec_createChat (policy : RetryPolicy) (t : State × Nat) :
    (program policy (.createChat token)).exec r t =
      (Database.inTransaction policy (.application token)
        (Database.chatKind token).adding).exec r t := by
  rw [← Kind.insertChat_eq]
  rfl

theorem Held.exec_createMessage (h : Held r s token parent application) {body : Option String}
    {text : String} (hbody : Store.validateBody body = .ok text) :
    (program policy (.createMessage token number body)).exec r (s, n) =
      (Database.inTransaction policy (.chat token number)
        (Database.messageKind application.id token number text).adding).exec r (s, n) := by
  rw [← Kind.insertMessage_eq]
  refine (Database.Script.exec_bind_of_ok ?_).trans
    (Database.Script.exec_bind_of_ok h.exec_applicationRow)
  rw [Database.Script.exec_ofExcept, hbody]

theorem Held.exec_deleteChat (h : Held r s token parent application) :
    (program policy (.deleteChat token number)).exec r (s, n) =
      (Database.inTransaction policy (.application token)
        (Database.removeChat application.id token number)).exec r (s, n) :=
  Database.Script.exec_bind_of_ok h.exec_applicationRow

/-- **Deleting a chat agrees with the checked arithmetic**, for any count of its application. -/
theorem removesAs_of_findsChat
    (h : Database.FindsChat s parent application number chatRecord chat) :
    RemovesAs r s parent application number chat
      ((Database.inTransaction policy (.application token)
        (Database.removeChat application.id token number)).exec r (s, n)) := by
  rcases h.exec policy r n token with
    ⟨hrange, hexec⟩ | ⟨hrange, records, hexec, hremoved⟩
  · rw [hexec]
    refine
      { allowed := ?_, overflowed := fun _ => ⟨_, rfl⟩, removed := by simp
        failed := fun _ _ => rfl }
    intro count hcount
    have hsum := CounterUpdate.isInt64_of_apply hcount
    rw [(CounterUpdate.apply_eq_ok hcount).1] at hsum
    exact absurd hsum hrange
  · rw [hexec]
    refine
      { allowed := ?_, overflowed := fun hover => absurd hrange hover
        removed := fun _ => hremoved, failed := by simp }
    intro count hcount
    obtain ⟨rfl, hnonneg⟩ := CounterUpdate.apply_eq_ok hcount
    exact ⟨hnonneg, rfl, hremoved⟩

end Finding

/-! ## the comparison -/

section Comparison

variable {mem : Memory.State} {token : String} {number : Int} {record : Nat}
  {found : Memory.ApplicationRecord} {application : ApplicationRow} {chat : ChatRow}

/-- Memory holds an application with the same counters. -/
structure SameApplication (mem : Memory.State) (token : String) (found : Memory.ApplicationRecord)
    (application : ApplicationRow) : Prop where
  lookup : mem.lookupApplication token = .ok found
  last : found.application.lastChatNumber = application.lastChatNumber
  count : found.application.chatsCount = application.chatsCount

/-- Memory holds a chat of an application with the same counters. -/
structure SameChat (mem : Memory.State) (found : Memory.ApplicationRecord) (number : Int)
    (record : Nat) (chat : ChatRow) : Prop where
  connected : Connected mem
  link : Keyed.get? number found.chats = some record
  last : (mem.chatAt record).chat.lastMessageNumber = chat.lastMessageNumber
  count : (mem.chatAt record).chat.messagesCount = chat.messagesCount

/-- Memory numbers chats by the checked arithmetic, and gives its errors. -/
theorem SameApplication.createChat_number (h : SameApplication mem token found application)
    (m : Moment) :
    (perform m (.createChat token) mem).2.map (·.number) =
      (allocated .chats application.lastChatNumber application.chatsCount).map (·.1) := by
  rw [Memory.perform_createChat, h.lookup, ← h.last, ← h.count]
  dsimp only
  cases allocated .chats found.application.lastChatNumber found.application.chatsCount <;> rfl

/-- It deletes them by the checked arithmetic, too. -/
theorem SameApplication.deleteChat_answer (h : SameApplication mem token found application)
    (hlink : Keyed.get? number found.chats = some record) (m : Moment) :
    (perform m (.deleteChat token number) mem).2 =
      ((CounterUpdate.decrement .chats).apply application.chatsCount).map fun _ => () := by
  rw [Memory.perform_deleteChat, h.lookup, ← h.count]
  dsimp only
  rw [hlink]
  dsimp only
  cases (CounterUpdate.decrement .chats).apply found.application.chatsCount <;> rfl

/-- So it does with messages. -/
theorem SameChat.createMessage_number (h : SameChat mem found number record chat)
    (hfound : mem.lookupApplication token = .ok found) {body : Option String} {text : String}
    (hbody : Store.validateBody body = .ok text) (m : Moment) :
    (perform m (.createMessage token number body) mem).2.map (·.number) =
      (allocated .messages chat.lastMessageNumber chat.messagesCount).map (·.1) := by
  have hrecord :=
    Memory.lookupChat_eq_ok.mpr ⟨found, Memory.lookupApplication_eq_ok.mp hfound, h.link⟩
  rw [h.connected.perform_createMessage, hbody, hrecord, ← h.last, ← h.count]
  dsimp only
  cases allocated .messages (mem.chatAt record).chat.lastMessageNumber
    (mem.chatAt record).chat.messagesCount <;> rfl

end Comparison

/-- **The counters of the two stores agree as far as the database checks them.**  Memory answers by
the checked arithmetic, whatever the counters hold; on the same counters the database does what the
arithmetic allows, and changes nothing where it fails. -/
theorem counters_agree (policy : RetryPolicy) (m : Moment) {r : Reading} {s : State} (n : Nat)
    {mem : Memory.State} {token : String} {found : Memory.ApplicationRecord} {parent : Record}
    {application : ApplicationRow} (hmem : SameApplication mem token found application)
    (h : Held r s token parent application) :
    ((perform m (.createChat token) mem).2.map (·.number) =
        (allocated .chats application.lastChatNumber application.chatsCount).map (·.1) ∧
      AddsAs (Database.chatKind token) policy r s n parent application application.chatsCount
        ((program policy (.createChat token)).exec r (s, n))) ∧
    ∀ number chatRecord chat record, SameChat mem found number record chat →
      HeldChat s application number chatRecord chat →
        (∀ body text, Store.validateBody body = .ok text →
          (perform m (.createMessage token number body) mem).2.map (·.number) =
              (allocated .messages chat.lastMessageNumber chat.messagesCount).map (·.1) ∧
            AddsAs (Database.messageKind application.id token number text) policy r s n chatRecord
              chat chat.messagesCount
              ((program policy (.createMessage token number body)).exec r (s, n))) ∧
        (perform m (.deleteChat token number) mem).2 =
            ((CounterUpdate.decrement .chats).apply application.chatsCount).map (fun _ => ()) ∧
          RemovesAs r s parent application number chat
            ((program policy (.deleteChat token number)).exec r (s, n)) := by
  refine ⟨⟨hmem.createChat_number m, ?_⟩, ?_⟩
  · rw [exec_createChat]
    exact addsAs_of_outcome h.last (h.finds.outcome h.freshChat)
  intro number chatRecord chat record hsame hchat
  refine ⟨fun body text hbody => ⟨hsame.createMessage_number hmem.lookup hbody m, ?_⟩,
    hmem.deleteChat_answer hsame.link m, ?_⟩
  · rw [h.exec_createMessage hbody]
    exact addsAs_of_outcome hchat.last ((h.finds_chat hchat text).outcome h.freshMessage)
  · rw [h.exec_deleteChat]
    exact removesAs_of_findsChat (h.findsChat hchat)

/-! ## an application with one chat -/

/-- An application with any counters. -/
def applicationWith (last count : Int) : ApplicationRow :=
  { Database.newApplicationRow (.ofNat 1) "t" "a" 0 with
    lastChatNumber := last, chatsCount := count }

def onlyChat : ChatRow := Database.newChatRow (.ofNat 2) (.ofNat 1) 1 0

/-- A server on which the application has one chat, whatever its counters say. -/
def serverWith (last count : Int) : State where
  records :=
    [(Database.applications, [(applicationWith last count).toRecord]),
      (Database.chats, [onlyChat.toRecord])]
  unique :=
    [(Database.applications, [["token"]]), (Database.chats, [["application_id", "number"]]),
      (Database.messages, [["chat_id", "number"]])]
  transaction := none

def reading : Reading := ⟨0, "u", fun _ => .ofNat 3⟩

theorem held_serverWith (last count : Int) (hlast : Word.IsInt64 last) :
    Held reading (serverWith last count) "t" (applicationWith last count).toRecord
      (applicationWith last count) where
  idle := rfl
  chatKeys := rfl
  messageKeys := rfl
  ids := List.nodup_singleton _
  freshChat _ := by
    rintro record hrecord
    obtain rfl := List.mem_singleton.mp hrecord
    change some (Database.Value.objectId onlyChat.id) ≠ some (.objectId (.ofNat 3))
    decide
  freshMessage _ := by
    rintro record hrecord
    contradiction
  found := rfl
  holds := (applicationWith last count).holds_toRecord
  last := hlast

theorem heldChat_serverWith (last count : Int) :
    HeldChat (serverWith last count) (applicationWith last count) 1 onlyChat.toRecord onlyChat where
  found := rfl
  holds := onlyChat.holds_toRecord
  last := by decide

/-- Memory with the application and its chat, and the same counters. -/
def foundWith (last count : Int) : Memory.ApplicationRecord where
  application :=
    { id := "1", token := "t", name := "a", chatsCount := count, lastChatNumber := last
      createdAt := .epoch, updatedAt := .epoch }
  chats := [(1, 2)]

def memoryWith (last count : Int) : Memory.State where
  applications := [("t", foundWith last count)]
  chats := [(2, ⟨onlyChat.toModel, [], false⟩)]
  ids := 2

theorem sameApplication_memoryWith (last count : Int) :
    SameApplication (memoryWith last count) "t" (foundWith last count)
      (applicationWith last count) where
  lookup := rfl
  last := rfl
  count := rfl

theorem sameChat_memoryWith (last count : Int) :
    SameChat (memoryWith last count) (foundWith last count) 1 2 onlyChat where
  connected token number record hrecord := by
    obtain ⟨found, hfound, hlink⟩ := Memory.lookupChat_eq_ok.mp hrecord
    obtain rfl : found = foundWith last count := by
      simp only [memoryWith, Keyed.get?] at hfound
      grind
    obtain rfl : record = 2 := by
      simp only [foundWith, Keyed.get?] at hlink
      grind
    exact ⟨rfl, rfl⟩
  link := rfl
  last := rfl
  count := rfl

/-- Counters that fit no children: the application has one chat, and counts three. -/
theorem counters_agree_apart :
    SameApplication (memoryWith 7 3) "t" (foundWith 7 3) (applicationWith 7 3) ∧
    Held reading (serverWith 7 3) "t" (applicationWith 7 3).toRecord (applicationWith 7 3) ∧
    SameChat (memoryWith 7 3) (foundWith 7 3) 1 2 onlyChat ∧
    HeldChat (serverWith 7 3) (applicationWith 7 3) 1 onlyChat.toRecord onlyChat ∧
    (perform ⟨.epoch, "u"⟩ (.createChat "t") (memoryWith 7 3)).2.map (·.number) = .ok 8 ∧
    ((program ⟨1, .zero⟩ (.createChat "t")).exec reading (serverWith 7 3, 0)).1.map (·.number) =
      .ok 8 ∧
    (perform ⟨.epoch, "u"⟩ (.createMessage "t" 1 (some "hi")) (memoryWith 7 3)).2.map (·.number) =
      .ok 1 ∧
    ((program ⟨1, .zero⟩ (.createMessage "t" 1 (some "hi"))).exec reading
      (serverWith 7 3, 0)).1.map (·.number) = .ok 1 ∧
    (perform ⟨.epoch, "u"⟩ (.deleteChat "t" 1) (memoryWith 7 3)).2 = .ok () ∧
    ((program ⟨1, .zero⟩ (.deleteChat "t" 1)).exec reading (serverWith 7 3, 0)).1 = .ok () := by
  have hmem := sameApplication_memoryWith 7 3
  have hheld := held_serverWith 7 3 (by decide)
  have hsame := sameChat_memoryWith 7 3
  have hchat := heldChat_serverWith 7 3
  have h := counters_agree ⟨1, .zero⟩ ⟨.epoch, "u"⟩ 0 hmem hheld
  obtain ⟨hmessage, hdelete, hremoves⟩ := h.2 1 _ _ _ hsame hchat
  obtain ⟨hposted, hadds⟩ := hmessage (some "hi") "hi" rfl
  refine ⟨hmem, hheld, hsame, hchat, h.1.1, ?_, hposted, ?_, hdelete, ?_⟩
  · rw [(h.1.2.allowed 8 4 (by decide) ?_).2.1]
    · rfl
    · rintro ⟨other, hother, -, hnumber⟩
      obtain rfl := List.mem_singleton.mp hother
      exact absurd hnumber (by decide)
  · rw [(hadds.allowed 1 1 (by decide) ?_).2.1]
    · rfl
    · rintro ⟨other, hother, -⟩
      contradiction
  · exact (hremoves.allowed 2 (by decide)).2.1

/-- Where the arithmetic refuses a count the server gives another error, or none; a chat that has
the number already is a conflict; and no number is handed out after the greatest. -/
theorem counters_disagree :
    (allocated .chats 1 Word.maxInt64 = .error (.internal "chats_count overflowed") ∧
      ((program ⟨1, .zero⟩ (.createChat "t")).exec reading (serverWith 1 Word.maxInt64, 0)).1 =
        .error (.database "")) ∧
    ((CounterUpdate.decrement .chats).apply 0 =
        .error (.internal "chats_count would drop below zero") ∧
      ∃ records, (program ⟨1, .zero⟩ (.deleteChat "t" 1)).exec reading (serverWith 1 0, 0) =
          (.ok (), { serverWith 1 0 with records }, 0) ∧
        ∃ stored ∈ recordsOf Database.applications records,
          Keyed.get? "chats_count" stored = some (.long (-1))) ∧
    (allocated .chats 0 0 = .ok (1, 1) ∧
      ((program ⟨1, .zero⟩ (.createChat "t")).exec reading (serverWith 0 0, 0)).1 =
        .error (.constraintViolation
          "number allocation for application:t kept conflicting after 1 attempts")) ∧
    (allocated .chats Word.maxInt64 1 = .error (.constraintViolation "sequence exhausted") ∧
      ((program ⟨1, .zero⟩ (.createChat "t")).exec reading (serverWith Word.maxInt64 1, 0)).1 =
        .error (.database "")) := by
  refine ⟨⟨by decide, ?_⟩, ⟨by decide, ?_⟩, ⟨by decide, ?_⟩, by decide, ?_⟩
  · have h := (held_serverWith 1 Word.maxInt64 (by decide)).finds
    rw [exec_createChat]
    exact congrArg Prod.fst (h.exec_of_not_range (by decide))
  · have hheld := held_serverWith 1 0 (by decide)
    have hexec := (hheld.findsChat (heldChat_serverWith 1 0)).exec ⟨1, .zero⟩ reading 0 "t"
    obtain ⟨hrange, -⟩ | ⟨-, records, hexec, hremoved⟩ := hexec
    · exact absurd (by decide) hrange
    · obtain ⟨before, after, -, hafter⟩ := hremoved.lowered
      refine ⟨records, hheld.exec_deleteChat.trans hexec,
        Database.withCount .chats (-1) 0 (applicationWith 1 0).toRecord, ?_, by decide⟩
      rw [hafter]
      exact List.mem_append_right _ (List.mem_cons_self ..)
  · have h := (held_serverWith 0 0 (by decide)).finds
    rw [exec_createChat]
    exact congrArg Prod.fst (h.exec_of_taken (by decide)
      (show nextAfter 0 = .ok 1 by decide) ⟨onlyChat.toRecord, by decide, by decide, by decide⟩)
  · have h := (held_serverWith Word.maxInt64 1 (by decide)).finds
    rw [exec_createChat]
    exact congrArg Prod.fst (h.exec_of_not_range (by decide))

end ChatService.Refinement
