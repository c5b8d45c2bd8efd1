import ChatService.Page.Window
import ChatService.Proofs.Database.Execution
import ChatService.Proofs.Database.Order

/-!
# Windows of listings

A listing of the store is one query, with the window as the server's skip and limit.  Offsets and
limits beyond the server's numbers do no harm, but a limit of zero, which leaves nothing of a
listing, is no limit to the server.  So every window is honoured but the one that is empty.
-/

namespace ChatService.Database

open Server (State recordsOf isMatch inOrder listing)
open Store (Application Message RetryPolicy)

variable {ρ μ α β ε : Type}

/-- All are read if each is. -/
theorem mapM_eq_ok {f : α → Except ε β} {xs : List α} {ys : List β} :
    xs.mapM f = .ok ys ↔ List.Forall₂ (fun x y => f x = .ok y) xs ys := by
  induction xs generalizing ys with
  | nil => cases ys <;> simp [pure, Except.pure]
  | cons x xs ih =>
      rw [List.mapM_cons]
      cases hx : f x with
      | error e => cases ys <;> simp [bind, Except.bind, hx]
      | ok y =>
          cases hxs : xs.mapM f with
          | error e => cases ys <;> simp [bind, Except.bind, ← ih, hx, hxs]
          | ok rest => cases ys <;> simp [bind, Except.bind, pure, Except.pure, ← ih, hx, hxs]

/-! ## what the server leaves of a listing -/

/-- What stands behind an offset, up to a limit; a limit of zero is none. -/
def reach (offset limit : Nat) (xs : List α) : List α :=
  if limit = 0 then xs.drop offset else Page.slice offset limit xs

theorem reach_of_ne_zero {limit : Nat} (h : limit ≠ 0) (offset : Nat) (xs : List α) :
    reach offset limit xs = Page.slice offset limit xs := if_neg h

/-- The bounds of the server's numbers cut nothing off. -/
theorem listing_eq_reach {sort : List SortKey} {records sorted : List Record}
    (hsorted : records.mergeSort (inOrder sort) = sorted)
    (hlength : (sorted.length : Int) ≤ Word.maxInt64) (offset limit : Nat) :
    listing sort (cursorBound offset) (cursorBound limit) records = reach offset limit sorted := by
  have hbound : sorted.length ≤ Word.maxInt64.toNat := by omega
  have hskip : sorted.drop (cursorBound offset) = sorted.drop offset := by
    by_cases hle : offset ≤ Word.maxInt64.toNat
    · rw [cursorBound, Nat.min_eq_left hle]
    · rw [cursorBound, Nat.min_eq_right (by omega), List.drop_eq_nil_of_le hbound,
        List.drop_eq_nil_of_le (by omega)]
  have hrest : (sorted.drop offset).length ≤ Word.maxInt64.toNat := by
    rw [List.length_drop]
    omega
  have hzero : cursorBound limit = 0 ↔ limit = 0 := by
    unfold cursorBound Word.maxInt64
    omega
  simp only [listing, hsorted, hskip, hzero, reach, Page.slice]
  by_cases hle : limit ≤ Word.maxInt64.toNat
  · rw [cursorBound, Nat.min_eq_left hle]
  · rw [cursorBound, Nat.min_eq_right (by omega), List.take_of_length_le hrest,
      List.take_of_length_le (by omega)]

theorem exec_find {r : Reading} {t : State × Nat} {collection : String} {filter : Filter}
    {sort : List SortKey} {sorted : List Record}
    (hsorted : ((recordsOf collection t.1.records).filter (isMatch filter)).mergeSort
      (inOrder sort) = sorted)
    (hlength : (sorted.length : Int) ≤ Word.maxInt64) (offset limit : Nat) :
    (Script.send none
      (.find collection filter sort (cursorBound offset) (cursorBound limit))).exec r t =
        (.ok (reach offset limit sorted), t) := by
  have hskip : ¬ Server.maxSkip < cursorBound offset := Nat.not_lt.mpr (Nat.min_le_right _ _)
  refine (Script.exec_send_none _).trans ?_
  rw [Server.execute, if_neg hskip, listing_eq_reach hsorted hlength]
  rfl

/-! ## listings of rows -/

/-- A listing of the store: how it is asked for and read, what belongs to it, and which of two rows
comes first. -/
structure Listing (ρ μ : Type) where
  collection : String
  filter : Filter
  sort : List SortKey
  toRecord : ρ → Record
  ofRecord? : Record → Option ρ
  toModel : ρ → μ
  belongs : Record → Bool
  Before : ρ → ρ → Prop
  decidable : DecidableRel Before := by infer_instance
  isMatch_eq : ∀ record, isMatch filter record = belongs record
  holds_toRecord : ∀ row, Holds (toRecord row) (toRecord row)
  ofRecord?_of_holds : ∀ {record row}, Holds record (toRecord row) → ofRecord? record = some row
  before_of_inOrder : ∀ {a b row row'}, Holds a (toRecord row) → Holds b (toRecord row') →
    inOrder sort a b = true → Before row row'

namespace Listing

instance (l : Listing ρ μ) : DecidableRel l.Before := l.decidable

variable {l : Listing ρ μ} {t : State × Nat} {records : List Record} {rows : List ρ}

/-- The models of records, if all of them can be read. -/
def read (l : Listing ρ μ) (records : List Record) : Except StoreError (List μ) :=
  (records.mapM (rowOf l.ofRecord?)).map (List.map l.toModel)

/-- A window of the listing. -/
def script (l : Listing ρ μ) (offset limit : Nat) : Script (List μ) := do
  let records ← Script.send none
    (.find l.collection l.filter l.sort (cursorBound offset) (cursorBound limit))
  let rows ← Script.ofExcept (records.mapM (rowOf l.ofRecord?))
  return rows.map l.toModel

/-- The whole listing, in its order: the records that belong to it, each as often as it is stored;
those that hold rows stand as the rows do. -/
structure Complete (l : Listing ρ μ) (s : State) (records : List Record) : Prop where
  perm : records.Perm ((recordsOf l.collection s.records).filter l.belongs)
  sorted : records.Pairwise fun a b => inOrder l.sort a b = true
  rows : records.Pairwise fun a b =>
    ∀ row row', Holds a (l.toRecord row) → Holds b (l.toRecord row') → l.Before row row'

/-- Runs that answer windows of a listing on a server, and leave the server as it is: any window
that is not empty as it stands in the listing, an empty one as if it had no end. -/
structure Windowed (l : Listing ρ μ) (t : State × Nat) (records : List Record)
    (run : Nat → Nat → Except StoreError (List μ) × State × Nat) : Prop where
  complete : l.Complete t.1 records
  window : ∀ offset limit, limit ≠ 0 →
    run offset limit = (l.read (Page.slice offset limit records), t)
  endless : ∀ offset, run offset 0 = (l.read (records.drop offset), t)
  honours_iff : ∀ offset limit, run offset limit = (l.read (Page.slice offset limit records), t) ↔
    limit ≠ 0 ∨ records.length ≤ offset
  rows : ∀ rows, List.Forall₂ (fun record row => Holds record (l.toRecord row)) records rows →
    ∀ offset limit, limit ≠ 0 →
      run offset limit = (.ok ((Page.slice offset limit rows).map l.toModel), t)

theorem read_eq_ok {models : List μ} : l.read records = .ok models ↔
    ∃ rows, List.Forall₂ (fun record row => rowOf l.ofRecord? record = .ok row) records rows ∧
      rows.map l.toModel = models := by
  rw [read]
  simp only [← mapM_eq_ok]
  cases records.mapM (rowOf l.ofRecord?) <;> simp [Except.map]

/-- Records that hold rows are read as the rows. -/
theorem read_of_holds
    (h : List.Forall₂ (fun record row => Holds record (l.toRecord row)) records rows) :
    l.read records = .ok (rows.map l.toModel) :=
  read_eq_ok.mpr ⟨rows, h.imp fun _ _ hrow => by rw [rowOf, l.ofRecord?_of_holds hrow], rfl⟩

/-- Something is never read as nothing. -/
theorem eq_nil_of_read (h : l.read records = .ok []) : records = [] := by
  obtain ⟨rows, hrows, hnone⟩ := read_eq_ok.mp h
  rw [List.map_eq_nil_iff.mp hnone] at hrows
  exact List.forall₂_nil_right_iff.mp hrows

theorem complete_sorted (l : Listing ρ μ) (s : State) :
    l.Complete s (((recordsOf l.collection s.records).filter (isMatch l.filter)).mergeSort
      (inOrder l.sort)) where
  perm := by
    rw [← funext l.isMatch_eq]
    exact List.mergeSort_perm _ _
  sorted := Server.pairwise_sorted _ _
  rows := (Server.pairwise_sorted _ _).imp fun hle _ _ hrow hrow' =>
    l.before_of_inOrder hrow hrow' hle

/-- Stored rows have one order only if no two of them stand before each other. -/
theorem Complete.eq_of_perm {s : State} (h : l.Complete s records) (rows : List ρ)
    (hperm : ((recordsOf l.collection s.records).filter l.belongs).Perm (rows.map l.toRecord))
    (hsorted : rows.Pairwise l.Before)
    (hanti : ∀ a ∈ rows, ∀ b ∈ rows, l.Before a b → l.Before b a → a = b) :
    records = rows.map l.toRecord := by
  have hread : ∀ a row, Holds (l.toRecord a) (l.toRecord row) → row = a := by
    intro a row hrow
    have hrow' := l.ofRecord?_of_holds hrow
    rw [l.ofRecord?_of_holds (l.holds_toRecord a)] at hrow'
    exact (Option.some.inj hrow').symm
  have hrows : (rows.map l.toRecord).Pairwise fun a b =>
      ∀ row row', Holds a (l.toRecord row) → Holds b (l.toRecord row') → l.Before row row' := by
    refine List.pairwise_map.mpr (hsorted.imp fun hbefore row row' hrow hrow' => ?_)
    rwa [hread _ row hrow, hread _ row' hrow']
  have hall := h.perm.trans hperm
  refine List.Perm.eq_of_pairwise (fun a b ha hb hab hba => ?_) h.rows hrows hall
  obtain ⟨row, hrow, rfl⟩ := List.mem_map.mp (hall.mem_iff.mp ha)
  obtain ⟨row', hrow', rfl⟩ := List.mem_map.mp hb
  rw [hanti row hrow row' hrow' (hab _ _ (l.holds_toRecord _) (l.holds_toRecord _))
    (hba _ _ (l.holds_toRecord _) (l.holds_toRecord _))]

/-- A listing is answered from what the server leaves of it. -/
theorem exec_script (r : Reading)
    (hsorted : ((recordsOf l.collection t.1.records).filter (isMatch l.filter)).mergeSort
      (inOrder l.sort) = records)
    (hlength : (records.length : Int) ≤ Word.maxInt64) (offset limit : Nat) :
    (l.script offset limit).exec r t = (l.read (reach offset limit records), t) := by
  have hfind := exec_find (r := r) hsorted hlength offset limit
  rw [script, Script.exec_bind_of_ok hfind, read]
  cases (reach offset limit records).mapM (rowOf l.ofRecord?) with
  | error e => exact Script.exec_bind_of_error (Script.exec_ofExcept _)
  | ok rows => exact Script.exec_bind_of_ok (Script.exec_ofExcept _)

/-- What answers as the server does honours every window but the empty one. -/
theorem windowed {run : Nat → Nat → Except StoreError (List μ) × State × Nat}
    (hcomplete : l.Complete t.1 records)
    (hrun : ∀ offset limit, run offset limit = (l.read (reach offset limit records), t)) :
    l.Windowed t records run where
  complete := hcomplete
  window offset limit hlimit := by rw [hrun, reach_of_ne_zero hlimit]
  endless offset := hrun offset 0
  honours_iff offset limit := by
    rw [hrun]
    by_cases hlimit : limit = 0
    · subst hlimit
      have hnone : l.read (Page.slice offset 0 records) = .ok [] := by
        rw [Page.slice, List.take_zero]
        rfl
      rw [hnone, ← List.drop_eq_nil_iff]
      constructor
      · exact fun h => .inr (eq_nil_of_read (Prod.mk.inj h).1)
      · rintro (hne | hnil)
        · contradiction
        · rw [reach, if_pos rfl, hnil]
          rfl
    · simp [reach_of_ne_zero hlimit, hlimit]
  rows rows hrows offset limit hlimit := by
    have hslice := read_of_holds (List.forall₂_take limit (List.forall₂_drop offset hrows))
    rw [hrun, reach_of_ne_zero hlimit]
    exact congrArg (·, t) hslice

end Listing

/-! ## the three listings -/

/-- All applications. -/
def applicationListing : Listing ApplicationRow Application where
  collection := applications
  filter := []
  sort := newestFirst
  toRecord := ApplicationRow.toRecord
  ofRecord? := ApplicationRow.ofRecord?
  toModel := ApplicationRow.toModel
  belongs _ := true
  Before a b := b.createdAt < a.createdAt ∨ a.createdAt = b.createdAt ∧ b.id.number ≤ a.id.number
  isMatch_eq _ := rfl
  holds_toRecord := ApplicationRow.holds_toRecord
  ofRecord?_of_holds := ApplicationRow.ofRecord?_of_holds
  before_of_inOrder {a b row row'} ha hb hle := by
    simp only [Holds, ApplicationRow.toRecord, List.forall_mem_cons] at ha hb
    rw [Server.inOrder_newestFirst ha.2.2.2.2.2.1 ha.1 hb.2.2.2.2.2.1 hb.1,
      decide_eq_true_eq] at hle
    exact hle

/-- The chats of an application. -/
def chatListing (applicationId : ObjectId) : Listing ChatRow Store.Chat where
  collection := chats
  filter := inApplication applicationId
  sort := byNumber
  toRecord := ChatRow.toRecord
  ofRecord? := ChatRow.ofRecord?
  toModel := ChatRow.toModel
  belongs record := decide (Keyed.get? "application_id" record = some (.objectId applicationId))
  Before a b := a.number ≤ b.number
  isMatch_eq _ := Bool.eq_iff_iff.mpr (Server.isMatch_inApplication.trans decide_eq_true_iff.symm)
  holds_toRecord := ChatRow.holds_toRecord
  ofRecord?_of_holds := ChatRow.ofRecord?_of_holds
  before_of_inOrder ha hb hle := by
    rw [Server.inOrder_byNumber (ChatRow.fields_of_holds ha).2.2.1
      (ChatRow.fields_of_holds hb).2.2.1, decide_eq_true_eq] at hle
    exact hle

/-- The messages of a chat. -/
def messageListing (chatId : ObjectId) : Listing MessageRow Message where
  collection := messages
  filter := inChat chatId
  sort := byNumber
  toRecord := MessageRow.toRecord
  ofRecord? := MessageRow.ofRecord?
  toModel := MessageRow.toModel
  belongs record := decide (Keyed.get? "chat_id" record = some (.objectId chatId))
  Before a b := a.number ≤ b.number
  isMatch_eq _ := Bool.eq_iff_iff.mpr (Server.isMatch_inChat.trans decide_eq_true_iff.symm)
  holds_toRecord := MessageRow.holds_toRecord
  ofRecord?_of_holds := MessageRow.ofRecord?_of_holds
  before_of_inOrder ha hb hle := by
    rw [Server.inOrder_byNumber (MessageRow.fields_of_holds ha).2.2
      (MessageRow.fields_of_holds hb).2.2, decide_eq_true_eq] at hle
    exact hle

/-! ## every window -/

section Windows

variable (policy : RetryPolicy) (r : Reading) {s : State} (n : Nat)

/-- The application that is found under a token. -/
def foundApplication (s : State) (token : String) : Except StoreError ApplicationRow :=
  rowOrError ApplicationRow.ofRecord? (.applicationNotFound token)
    ((recordsOf applications s.records).find? (isMatch (tokenIs token)))

/-- The chat that is found under a number. -/
def foundChat (s : State) (token : String) (number : Int) : Except StoreError ChatRow := do
  let application ← foundApplication s token
  rowOrError ChatRow.ofRecord? (.chatNotFound token number)
    ((recordsOf chats s.records).find? (isMatch (chatIs application.id number)))

theorem exec_applicationRow (token : String) :
    (applicationRow token).exec r (s, n) = (foundApplication s token, s, n) := rfl

theorem exec_chatRow (token : String) (number : Int) :
    (chatRow token number).exec r (s, n) = (foundChat s token number, s, n) := by
  have hlook := exec_applicationRow r (s := s) n token
  unfold chatRow foundChat
  cases happlication : foundApplication s token with
  | ok application => exact Script.exec_bind_of_ok (hlook.trans (by rw [happlication]))
  | error e => exact Script.exec_bind_of_error (hlook.trans (by rw [happlication]))

/-- Where the records are few enough, what runs as a listing does answers its windows. -/
theorem Listing.exists_windowed (l : Listing ρ μ) {r : Reading} {n : Nat}
    {run : Nat → Nat → Except StoreError (List μ) × State × Nat}
    (hfew : ((recordsOf l.collection s.records).length : Int) ≤ Word.maxInt64)
    (hrun : ∀ offset limit, run offset limit = (l.script offset limit).exec r (s, n)) :
    ∃ records, l.Windowed (s, n) records run := by
  have hlength : ((((recordsOf l.collection s.records).filter (isMatch l.filter)).mergeSort
      (inOrder l.sort)).length : Int) ≤ Word.maxInt64 := by
    have hfilter := List.length_filter_le (isMatch l.filter) (recordsOf l.collection s.records)
    rw [List.length_mergeSort]
    omega
  exact ⟨_, windowed (l.complete_sorted s) fun offset limit =>
    (hrun offset limit).trans (exec_script r rfl hlength offset limit)⟩

/-- **Listings honour every window but the empty one**, whatever is stored: applications newest
first, the chats of an application and the messages of a chat by their numbers.  Where the parent
is not found, no window is answered. -/
theorem listings_windowed
    (hfew : ∀ collection, ((recordsOf collection s.records).length : Int) ≤ Word.maxInt64) :
    (∃ records, applicationListing.Windowed (s, n) records fun offset limit =>
      (program policy (.listApplications offset limit)).exec r (s, n)) ∧
    (∀ token, match foundApplication s token with
      | .ok application => ∃ records, (chatListing application.id).Windowed (s, n) records
          fun offset limit => (program policy (.listChats token offset limit)).exec r (s, n)
      | .error e => ∀ offset limit,
          (program policy (.listChats token offset limit)).exec r (s, n) = (.error e, s, n)) ∧
    ∀ token number, match foundChat s token number with
      | .ok chat => ∃ records, (messageListing chat.id).Windowed (s, n) records
          fun offset limit =>
            (program policy (.listMessages token number offset limit)).exec r (s, n)
      | .error e => ∀ offset limit,
          (program policy (.listMessages token number offset limit)).exec r (s, n) =
            (.error e, s, n) := by
  refine ⟨applicationListing.exists_windowed (hfew _) fun _ _ => rfl, fun token => ?_,
    fun token number => ?_⟩
  · have hlook := exec_applicationRow r (s := s) n token
    cases happlication : foundApplication s token with
    | error e =>
        rw [happlication] at hlook
        exact fun offset limit => Script.exec_bind_of_error hlook
    | ok application =>
        rw [happlication] at hlook
        exact (chatListing application.id).exists_windowed (hfew _) fun offset limit =>
          Script.exec_bind_of_ok hlook
  · have hlook := exec_chatRow r (s := s) n token number
    cases hchat : foundChat s token number with
    | error e =>
        rw [hchat] at hlook
        exact fun offset limit => Script.exec_bind_of_error hlook
    | ok chat =>
        rw [hchat] at hlook
        exact (messageListing chat.id).exists_windowed (hfew _) fun offset limit =>
          Script.exec_bind_of_ok hlook

end Windows

/-! ## windows of a few rows -/

namespace Windows

def older : ApplicationRow := newApplicationRow (.ofNat 1) "s" "a" 1000

def newer : ApplicationRow := newApplicationRow (.ofNat 2) "t" "b" 2000

/-- A chat of the newer application. -/
def chatOfNewer (number : Int) : ChatRow :=
  newChatRow (.ofNat (2 + number.toNat)) (.ofNat 2) number 2000

/-- A message in its first chat. -/
def greeting : MessageRow := newMessageRow (.ofNat 5) (.ofNat 3) 1 "hi" 2000

/-- Two applications, two chats and a message. -/
def stored : State where
  records :=
    [(applications, [older.toRecord, newer.toRecord]),
      (chats, [(chatOfNewer 2).toRecord, (chatOfNewer 1).toRecord]),
      (messages, [greeting.toRecord])]
  unique := []
  transaction := none

/-- One application. -/
def lonely : State := { stored with records := [(applications, [older.toRecord])] }

theorem length_stored_le (collection : String) :
    ((recordsOf collection stored.records).length : Int) ≤ Word.maxInt64 := by
  simp only [recordsOf, stored, Keyed.get?]
  split <;> [skip; split <;> [skip; split]] <;> decide

def reading : Reading := ⟨0, "u", fun _ => .ofNat 6⟩

/-- The second application, the second chat, and no second message. -/
theorem listings_windowed_stored :
    (∀ collection, ((recordsOf collection stored.records).length : Int) ≤ Word.maxInt64) ∧
    (program ⟨1, .zero⟩ (.listApplications 1 18446744073709551615)).exec reading (stored, 0) =
      (.ok [older.toModel], stored, 0) ∧
    (program ⟨1, .zero⟩ (.listChats "t" 1 1)).exec reading (stored, 0) =
      (.ok [(chatOfNewer 2).toModel], stored, 0) ∧
    (program ⟨1, .zero⟩ (.listMessages "t" 1 18446744073709551615 1)).exec reading (stored, 0) =
      (.ok [], stored, 0) := by
  obtain ⟨⟨_, happlications⟩, hchats, hmessages⟩ :=
    listings_windowed ⟨1, .zero⟩ reading 0 length_stored_le
  obtain ⟨_, hchats⟩ := hchats "t"
  obtain ⟨_, hmessages⟩ := hmessages "t" 1
  have hnewest := happlications.complete.eq_of_perm [newer, older]
    (List.Perm.swap _ _ _) (by decide) (by decide)
  have hnumbered := hchats.complete.eq_of_perm [chatOfNewer 1, chatOfNewer 2]
    (List.Perm.swap _ _ _) (by decide) (by decide)
  have honly := hmessages.complete.eq_of_perm [greeting]
    (List.Perm.refl _) (by decide) (by decide)
  subst hnewest hnumbered honly
  exact ⟨length_stored_le, happlications.window _ _ (by decide), hchats.window _ _ (by decide),
    hmessages.window _ _ (by decide)⟩

/-- **The empty window is not honoured**: an application comes where memory would answer none. -/
theorem empty_window_missed :
    (program ⟨1, .zero⟩ (.listApplications 0 0)).exec reading (lonely, 0) =
        (.ok [older.toModel], lonely, 0) ∧
      Page.slice 0 0 [older.toModel] = [] := by
  refine ⟨?_, rfl⟩
  exact applicationListing.exec_script (t := (lonely, 0)) reading
    (List.mergeSort_singleton older.toRecord) (by decide) 0 0

end Windows

end ChatService.Database
