import ChatService.Database.Store
import ChatService.Proofs.Database.Run

/-!
# What becomes of transactions

A ledger of the transactions that a call began: what was sent in each, and whether it was applied.
`Kept` says which answers a server may give.  It is free to answer a commit with a failure that
leaves open whether the transaction was applied; it applies no transaction twice, and shows nothing
of one that was not committed.
-/

namespace ChatService.Database

open Store (Operation RetryPolicy Scope)

/-- A command that was sent in a transaction, with its answer. -/
structure Sent : Type 1 where
  {α : Type}
  command : Command α
  answer : Except Failure α

inductive Status where
  | opened
  | applied
  /-- Undone for good. -/
  | gone
deriving DecidableEq, Repr

structure Transaction : Type 1 where
  session : Session
  sent : List Sent
  status : Status

structure Ledger : Type 1 where
  /-- The newest first. -/
  transactions : List Transaction
  lastCommit : Option (Except Failure Unit)

/-- A failure that leaves open whether the commit was carried out; it is marked as nothing else. -/
def Failure.InDoubt (f : Failure) : Prop :=
  f.commitUnknown = true ∧ f.transient = false ∧ f.isDuplicateKey = false

instance (f : Failure) : Decidable f.InDoubt := inferInstanceAs (Decidable (_ ∧ _ ∧ _))

/-- How a commit may be answered, and what becomes of the transaction. -/
inductive Commits : Status → Except Failure Unit → Status → Prop where
  | applied : Commits .opened (.ok ()) .applied
  /-- The transaction is applied, and the client does not get to know. -/
  | unheard {f : Failure} (h : f.InDoubt) : Commits .opened (.error f) .applied
  | undecided {f : Failure} (h : f.InDoubt) : Commits .opened (.error f) .opened
  | refused {f : Failure} (h : f.commitUnknown = false) : Commits .opened (.error f) .gone
  /-- A transaction that is applied already stays so. -/
  | again : Commits .applied (.ok ()) .applied
  | stillUnheard {f : Failure} (h : f.InDoubt) : Commits .applied (.error f) .applied
  | lost {f : Failure} (h : f.commitUnknown = false) : Commits .gone (.error f) .gone

/-- What becomes of a transaction that is aborted. -/
def Status.abort : Status → Status
  | .applied => .applied
  | _ => .gone

namespace Ledger

def empty : Ledger := ⟨[], none⟩

/-- The transactions that were applied. -/
def applied (l : Ledger) : List Transaction := l.transactions.filter (·.status = .applied)

/-- One transaction of a session is changed, and none other. -/
def Changes (l : Ledger) (session : Session) (change : Transaction → Transaction → Prop)
    (transactions : List Transaction) : Prop :=
  ∃ before t t' after, l.transactions = before ++ t :: after ∧ t.session = session ∧
    change t t' ∧ transactions = before ++ t' :: after

/-- The answers that a server may give, and what it does with the transactions. -/
def Kept : Rule Ledger := fun l exchange l' =>
  match exchange with
  | ⟨.begin, .error _⟩ => l' = l
  | ⟨.begin, .ok session⟩ =>
    (∀ t ∈ l.transactions, t.session ≠ session) ∧
      l' = { l with transactions := ⟨session, [], .opened⟩ :: l.transactions }
  | ⟨.send (some session) .commit, answer⟩ =>
    ∃ transactions,
      l.Changes session
        (fun t t' => ∃ status, Commits t.status answer status ∧ t' = { t with status })
        transactions ∧
      l' = ⟨transactions, some answer⟩
  | ⟨.send (some session) .abort, _⟩ =>
    ∃ transactions,
      l.Changes session (fun t t' => t' = { t with status := t.status.abort }) transactions ∧
      l' = { l with transactions }
  | ⟨.send (some session) command, answer⟩ =>
    ∃ transactions,
      l.Changes session (fun t t' => t' = { t with sent := t.sent ++ [⟨command, answer⟩] })
        transactions ∧
      l' = { l with transactions }
  | _ => l' = l

/-- No session has two transactions, and none of the transactions is applied. -/
structure Clear (l : Ledger) : Prop where
  sessions : (l.transactions.map (·.session)).Nodup
  unapplied : ∀ t ∈ l.transactions, t.status ≠ .applied

theorem clear_empty : Clear empty where
  sessions := .nil
  unapplied := by simp [empty]

variable {t : Transaction} {rest : List Transaction} {last : Option (Except Failure Unit)}
  {session : Session} {change : Transaction → Transaction → Prop}
  {transactions : List Transaction}

/-- A change in the session of the newest transaction is a change of that transaction. -/
theorem Changes.newest (h : Changes ⟨t :: rest, last⟩ t.session change transactions)
    (hsessions : ((t :: rest).map (·.session)).Nodup) :
    ∃ t', change t t' ∧ transactions = t' :: rest := by
  obtain ⟨before, found, t', after, hsplit, hsession, hchange, rfl⟩ := h
  cases before with
  | nil =>
      obtain ⟨rfl, rfl⟩ := List.cons.inj hsplit
      exact ⟨t', hchange, rfl⟩
  | cons first before =>
      obtain ⟨rfl, rfl⟩ := List.cons.inj hsplit
      have hmem : t.session ∈ (before ++ found :: after).map (·.session) :=
        List.mem_map.mpr ⟨found, by simp, hsession⟩
      exact absurd hmem (List.nodup_cons.mp hsessions).1

end Ledger

/-! ## commits -/

/-- What the last answer to a commit says about the transaction. -/
def Commits.Says : Except Failure Unit → Status → Prop
  | .ok (), status => status = .applied
  | .error f, status => f.InDoubt ∨ f.commitUnknown = false ∧ status = .gone

theorem Commits.says {status status' : Status} {answer : Except Failure Unit}
    (h : Commits status answer status') : Says answer status' := by
  cases h with
  | applied | again => rfl
  | unheard h | undecided h | stillUnheard h => exact .inl h
  | refused h | lost h => exact .inr ⟨h, rfl⟩

section Commit

variable {t : Transaction} {rest : List Transaction} {last : Option (Except Failure Unit)}

theorem ensures_send_commit {post : Ledger → Except Failure Unit → Prop}
    (hsessions : ((t :: rest).map (·.session)).Nodup)
    (h : ∀ answer status, Commits t.status answer status →
      post ⟨{ t with status } :: rest, some answer⟩ answer) :
    (Program.asking (.send (some t.session) .commit)).Ensures Ledger.Kept post
      ⟨t :: rest, last⟩ := by
  refine Program.ensures_asking fun answer l' hkept => ?_
  obtain ⟨transactions, hchanges, rfl⟩ := hkept
  obtain ⟨t', ⟨status, hcommits, rfl⟩, rfl⟩ := hchanges.newest hsessions
  exact h answer status hcommits

/-- **However often it is sent, a commit is carried out once at most**, and its last answer tells
as much as a single answer does. -/
theorem commit_ensures (left : Nat) (hsessions : ((t :: rest).map (·.session)).Nodup) :
    (commit t.session left).Ensures Ledger.Kept
      (fun l' answer => ∃ status, Commits.Says answer status ∧
        l' = ⟨{ t with status } :: rest, some answer⟩) ⟨t :: rest, last⟩ := by
  induction left generalizing t last with
  | zero =>
      exact ensures_send_commit hsessions fun answer status hcommits =>
        ⟨status, hcommits.says, rfl⟩
  | succ left ih =>
      refine Program.ensures_bind (ensures_send_commit hsessions fun answer status hcommits => ?_)
      cases answer with
      | ok answer => exact ⟨status, hcommits.says, rfl⟩
      | error f =>
          dsimp only
          split
          · exact ih (t := { t with status }) hsessions
          · exact ⟨status, hcommits.says, rfl⟩

end Commit

/-! ## units of work -/

/-- What a unit of work may ask for: its session is the only one that it uses, and it leaves the
beginning and the end of the transaction to others. -/
def Ask.IsWithin (session : Session) : (β : Type) → Ask β → Prop
  | _, .begin => False
  | _, .send _ .commit => False
  | _, .send _ .abort => False
  | _, .send used _ => used = some session
  | _, _ => True

/-- What is sent in a session, whatever the answers. -/
def Recorded (session : Session) : Rule (List Sent) := fun sent exchange sent' =>
  match exchange with
  | ⟨.send used command, answer⟩ => used = some session ∧ sent' = sent ++ [⟨command, answer⟩]
  | _ => sent' = sent

section Within

variable {α β : Type} {session : Session} {t : Transaction} {rest : List Transaction}
  {last : Option (Except Failure Unit)}

/-- Within a unit of work, the ledger records what is sent in the newest transaction. -/
theorem recorded_of_kept {request : Ask β} {answer : β} {l' : Ledger}
    (hwithin : request.IsWithin t.session β) (hsessions : ((t :: rest).map (·.session)).Nodup)
    (hkept : Ledger.Kept ⟨t :: rest, last⟩ ⟨request, answer⟩ l') :
    ∃ sent, Recorded t.session t.sent ⟨request, answer⟩ sent ∧
      l' = ⟨{ t with sent } :: rest, last⟩ := by
  cases request with
  | begin => exact hwithin.elim
  | send used command =>
      cases used with
      | none => cases command <;> simp [Ask.IsWithin] at hwithin
      | some session =>
          cases command with
          | commit => exact hwithin.elim
          | abort => exact hwithin.elim
          | _ =>
              obtain rfl := Option.some.inj hwithin
              obtain ⟨transactions, hchanges, rfl⟩ := hkept
              obtain ⟨t', rfl, rfl⟩ := hchanges.newest hsessions
              exact ⟨_, ⟨rfl, rfl⟩, rfl⟩
  | _ => exact ⟨t.sent, rfl, hkept⟩

/-- A unit of work changes nothing but what is recorded of its own transaction. -/
theorem within_ensures {p : Program α} (hwithin : p.Asks (Ask.IsWithin t.session))
    (hsessions : ((t :: rest).map (·.session)).Nodup) :
    p.Ensures Ledger.Kept
      (fun l' answer => ∃ sent, p.Runs (Recorded t.session) t.sent sent answer ∧
        l' = ⟨{ t with sent } :: rest, last⟩) ⟨t :: rest, last⟩ := by
  induction p generalizing t with
  | done answer => exact ⟨t.sent, .done, rfl⟩
  | ask request next ih =>
      intro answer l' hkept
      obtain ⟨sent, hrecorded, rfl⟩ := recorded_of_kept hwithin.1 hsessions hkept
      refine (ih answer (t := { t with sent }) (hwithin.2 answer) hsessions).imp ?_
      rintro l' final ⟨sent', hruns, rfl⟩
      exact ⟨sent', .ask answer sent hrecorded hruns, rfl⟩

end Within

/-! ## attempts -/

/-- A transaction that holds all that a unit of work sends before it succeeds. -/
def Completes {α : Type} (work : Session → Script α) (t : Transaction) (value : α) : Prop :=
  (work t.session).run.Runs (Recorded t.session) [] t.sent (.ok value)

/-- How units of work may end. -/
inductive Ended {α : Type} (work : Session → Script α) : Ledger → Except StoreError α → Prop where
  /-- Nothing is applied. -/
  | undone {l : Ledger} {e : StoreError} (h : l.Clear) : Ended work l (.error e)
  /-- The newest transaction is applied, and no other one. -/
  | done {t : Transaction} {l : Ledger} {last : Option (Except Failure Unit)} {value : α}
      (hclear : l.Clear) (happlied : t.status = .applied) (hcompletes : Completes work t value) :
      Ended work ⟨t :: l.transactions, last⟩ (.ok value)
  /-- The newest transaction may be applied; the work is not run again. -/
  | inDoubt {t : Transaction} {l : Ledger} {f : Failure} {value : α} (hclear : l.Clear)
      (hcompletes : Completes work t value) (hdoubt : f.InDoubt) :
      Ended work ⟨t :: l.transactions, some (.error f)⟩ (.error (.database f.detail))

section Attempts

variable {α : Type} {work : Session → Script α} {policy : RetryPolicy}

theorem Failure.InDoubt.toStoreError {f : Failure} (h : f.InDoubt) :
    f.toStoreError = .database f.detail := by
  simp [Failure.toStoreError, h.2.1, h.2.2]

theorem Ledger.Clear.cons {l : Ledger} (h : l.Clear) {t : Transaction}
    (last : Option (Except Failure Unit))
    (hfresh : ∀ other ∈ l.transactions, other.session ≠ t.session) (hstatus : t.status ≠ .applied) :
    Ledger.Clear ⟨t :: l.transactions, last⟩ where
  sessions := by
    refine List.nodup_cons.mpr ⟨fun hmem => ?_, h.sessions⟩
    obtain ⟨other, hother, hsession⟩ := List.mem_map.mp hmem
    exact hfresh other hother hsession
  unapplied other hother := by
    obtain rfl | hother := List.mem_cons.mp hother
    · exact hstatus
    · exact h.unapplied other hother

theorem finish_ensures {t : Transaction} {l : Ledger} {result : Except StoreError α}
    (hclear : l.Clear) (hfresh : ∀ other ∈ l.transactions, other.session ≠ t.session)
    (hopened : t.status = .opened)
    (hcompletes : ∀ value, result = .ok value → Completes work t value) :
    (finish policy t.session result).Ensures Ledger.Kept (Ended work)
      ⟨t :: l.transactions, l.lastCommit⟩ := by
  have hsessions := (hclear.cons none hfresh (by simp [hopened])).sessions
  cases result with
  | ok value =>
      have hcompletes := hcompletes value rfl
      refine Program.ensures_bind ((commit_ensures _ hsessions).imp ?_)
      rintro l' answer ⟨status, hsays, rfl⟩
      cases answer with
      | ok answer => exact .done (t := { t with status }) hclear hsays hcompletes
      | error f =>
          obtain hdoubt | ⟨-, hgone⟩ := hsays
          · have hended := Ended.inDoubt (t := { t with status }) hclear hcompletes hdoubt
            rw [← hdoubt.toStoreError] at hended
            exact hended
          · exact .undone (hclear.cons (t := { t with status }) _ hfresh (by simp [hgone]))
  | error e =>
      refine Program.ensures_bind (Program.ensures_asking fun answer l' hkept => ?_)
      obtain ⟨transactions, hchanges, rfl⟩ := hkept
      obtain ⟨t', rfl, rfl⟩ := hchanges.newest hsessions
      exact .undone (hclear.cons (t := { t with status := t.status.abort }) _ hfresh
        (by simp [Status.abort, hopened]))

/-- One attempt, which begins when nothing is applied. -/
theorem once_ensures (hwork : ∀ session, (work session).run.Asks (Ask.IsWithin session))
    {l : Ledger} (hclear : l.Clear) :
    (once policy work).Ensures Ledger.Kept (Ended work) l := by
  refine Program.ensures_bind (Program.ensures_asking fun answer l' hkept => ?_)
  cases answer with
  | error f =>
      obtain rfl : l' = l := hkept
      exact .undone hclear
  | ok session =>
      obtain ⟨hfresh, rfl⟩ := hkept
      have hsessions := (hclear.cons (t := ⟨session, [], .opened⟩) none hfresh (by simp)).sessions
      refine Program.ensures_bind ((within_ensures (t := ⟨session, [], .opened⟩) (hwork session)
        hsessions).imp ?_)
      rintro l' result ⟨sent, hruns, rfl⟩
      refine finish_ensures (t := ⟨session, sent, .opened⟩) hclear hfresh rfl ?_
      rintro value rfl
      exact hruns

/-- **A unit of work is not run again once it may have been applied.** -/
theorem inTransaction_ensures (hwork : ∀ session, (work session).run.Asks (Ask.IsWithin session))
    (scope : Scope) {l : Ledger} (hclear : l.Clear) :
    Script.Ensures Ledger.Kept (Ended work) (inTransaction policy scope work) l := by
  refine ensures_attemptFrom Ledger.Clear (fun l => once_ensures hwork) ?_ ?_ ?_ _ _ hclear
  · intro l detail hended
    cases hended with
    | undone h => exact h
  · intro l length l' hclear hkept
    obtain rfl : l' = l := hkept
    exact hclear
  · exact fun l attempt hclear => .undone hclear

end Attempts

/-! ## the operations with a unit of work -/

/-- The unit of work that an operation runs, for the application and the text that it found. -/
inductive UnitOf : {α : Type} → Operation α → (Session → Script α) → Prop where
  | createChat {token : String} : UnitOf (.createChat token) (insertChat token)
  | deleteChat {token : String} {number : Int} (applicationId : ObjectId) :
      UnitOf (.deleteChat token number) (removeChat applicationId token number)
  | createMessage {token text : String} {number : Int} {body : Option String}
      (applicationId : ObjectId) (hbody : Store.validateBody body = .ok text) :
      UnitOf (.createMessage token number body) (insertMessage applicationId token number text)

section Operations

variable {α : Type} {operation : Operation α} {work : Session → Script α} {policy : RetryPolicy}
  {l : Ledger}

theorem UnitOf.within (h : UnitOf operation work) (session : Session) :
    (work session).run.Asks (Ask.IsWithin session) := by
  cases h with
  | createChat =>
      refine Script.asks_bind (Script.asks_asking trivial) fun raised => ?_
      refine Script.asks_bind (Script.asks_send rfl) fun record => ?_
      refine Script.asks_bind trivial fun before => ?_
      refine Script.asks_bind trivial fun number => ?_
      refine Script.asks_bind (Script.asks_asking trivial) fun now => ?_
      refine Script.asks_bind (Script.asks_asking trivial) fun id => ?_
      exact Script.asks_bind (Script.asks_send rfl) fun _ => trivial
  | deleteChat applicationId =>
      refine Script.asks_bind (Script.asks_send rfl) fun record => ?_
      refine Script.asks_bind trivial fun chat => ?_
      refine Script.asks_bind (Script.asks_send rfl) fun _ => ?_
      exact Script.asks_bind (Script.asks_asking trivial) fun now => Script.asks_send rfl
  | createMessage applicationId hbody =>
      refine Script.asks_bind (Script.asks_asking trivial) fun raised => ?_
      refine Script.asks_bind (Script.asks_send rfl) fun record => ?_
      refine Script.asks_bind trivial fun before => ?_
      refine Script.asks_bind trivial fun next => ?_
      refine Script.asks_bind (Script.asks_asking trivial) fun now => ?_
      refine Script.asks_bind (Script.asks_asking trivial) fun id => ?_
      exact Script.asks_bind (Script.asks_send rfl) fun _ => trivial

/-- Reading outside of transactions leaves the ledger alone. -/
theorem applicationRow_ensures (token : String) :
    (applicationRow token).Ensures Ledger.Kept (fun l' _ => l' = l) l := by
  refine Script.ensures_bind (Script.ensures_send fun answer l' hkept => ?_)
  obtain rfl : l' = l := hkept
  cases answer <;> rfl

/-- How an operation with a unit of work may end. -/
inductive OperationEnded (operation : Operation α) : Ledger → Except StoreError α → Prop where
  /-- No transaction was begun. -/
  | unbegun {l : Ledger} {e : StoreError} (h : l.Clear) : OperationEnded operation l (.error e)
  | ended {l : Ledger} {answer : Except StoreError α} {work : Session → Script α}
      (hunit : UnitOf operation work) (h : Ended work l answer) :
      OperationEnded operation l answer

/-- The operations that run a unit of work in a transaction. -/
def runsUnit : {α : Type} → Operation α → Bool
  | _, .createChat _ | _, .deleteChat _ _ | _, .createMessage _ _ _ => true
  | _, _ => false

theorem program_ensures (hunit : runsUnit operation = true) (hclear : l.Clear) :
    (program policy operation).Ensures Ledger.Kept (OperationEnded operation) l := by
  cases operation with
  | createChat token =>
      exact (inTransaction_ensures UnitOf.createChat.within _ hclear).imp fun _ _ hended =>
        .ended .createChat hended
  | deleteChat token number =>
      refine Script.ensures_bind ((applicationRow_ensures _).imp ?_)
      rintro l' (e | application) rfl
      · exact .unbegun hclear
      · have hunit : UnitOf (.deleteChat token number) _ := .deleteChat application.id
        exact (inTransaction_ensures hunit.within _ hclear).imp fun _ _ hended =>
          .ended hunit hended
  | createMessage token number body =>
      refine Script.ensures_bind (Script.ensures_ofExcept ?_)
      cases hbody : Store.validateBody body with
      | error e => exact .unbegun hclear
      | ok text =>
          refine Script.ensures_bind ((applicationRow_ensures _).imp ?_)
          rintro l' (e | application) rfl
          · exact .unbegun hclear
          · have hunit : UnitOf (.createMessage token number body) _ :=
              .createMessage application.id hbody
            exact (inTransaction_ensures hunit.within _ hclear).imp fun _ _ hended =>
              .ended hunit hended
  | _ => contradiction

/-- What a call did in the end, by the ledger and by its answer. -/
structure AppliedOnce (operation : Operation α) (l : Ledger) (answer : Except StoreError α) :
    Prop where
  atMostOnce : l.applied.length ≤ 1
  /-- No transaction was begun after one that is applied. -/
  newest : ∀ t ∈ l.transactions.tail, t.status ≠ .applied
  /-- Whatever is applied is the whole of a unit of work. -/
  whole : ∀ t ∈ l.applied, ∃ work value, UnitOf operation work ∧ Completes work t value
  ofOk : ∀ value, answer = .ok value →
    ∃ t work, l.applied = [t] ∧ UnitOf operation work ∧ Completes work t value
  ofError : ∀ e, answer = .error e →
    (∀ f, l.lastCommit = some (.error f) → f.commitUnknown = false) → l.applied = []

theorem Ledger.Clear.applied_eq_nil (h : l.Clear) : l.applied = [] :=
  List.filter_eq_nil_iff.mpr fun t ht => by simpa using h.unapplied t ht

theorem Ledger.Clear.applied_cons (h : l.Clear) (t : Transaction)
    (last : Option (Except Failure Unit)) :
    Ledger.applied ⟨t :: l.transactions, last⟩ = if t.status = .applied then [t] else [] := by
  have hrest := h.applied_eq_nil
  unfold Ledger.applied at hrest ⊢
  rw [List.filter_cons, hrest]
  simp

theorem Ledger.Clear.appliedOnce (h : l.Clear) (e : StoreError) :
    AppliedOnce operation l (.error e) where
  atMostOnce := by simp [h.applied_eq_nil]
  newest t ht := h.unapplied t (List.mem_of_mem_tail ht)
  whole := by simp [h.applied_eq_nil]
  ofOk := by simp
  ofError _ _ _ := h.applied_eq_nil

theorem Ended.appliedOnce {answer : Except StoreError α} (h : Ended work l answer)
    (hunit : UnitOf operation work) : AppliedOnce operation l answer := by
  cases h with
  | undone hclear => exact hclear.appliedOnce _
  | @done t l last value hclear happlied hcompletes =>
      have happlied' := hclear.applied_cons t last
      rw [if_pos happlied] at happlied'
      exact
        { atMostOnce := by simp [happlied']
          newest := hclear.unapplied
          whole := by
            rw [happlied']
            simpa using ⟨work, hunit, value, hcompletes⟩
          ofOk := by
            rintro _ ⟨⟩
            exact ⟨t, work, happlied', hunit, hcompletes⟩
          ofError := by simp }
  | @inDoubt t l f value hclear hcompletes hdoubt =>
      have happlied := hclear.applied_cons t (some (.error f))
      refine
        { atMostOnce := ?_, newest := hclear.unapplied, whole := ?_, ofOk := by simp
          ofError := ?_ }
      · rw [happlied]
        split <;> simp
      · rw [happlied]
        intro t' ht'
        split at ht'
        · obtain rfl := List.mem_singleton.mp ht'
          exact ⟨work, value, hunit, hcompletes⟩
        · contradiction
      · intro e _ hlast
        have := hlast f rfl
        simp [hdoubt.1] at this

/-- **Under ambiguous commits a unit of work is applied at most once.**  It is applied exactly once
if the call succeeds, and not at all if the call fails and its last commit was answered by a plain
refusal, or none was sent. -/
theorem program_appliedOnce (hunit : runsUnit operation = true) {answer : Except StoreError α}
    (hruns : (program policy operation).Runs Ledger.Kept .empty l answer) :
    AppliedOnce operation l answer := by
  cases (program_ensures hunit Ledger.clear_empty).of_runs hruns with
  | unbegun hclear => exact hclear.appliedOnce _
  | ended hunit hended => exact hended.appliedOnce hunit

/-- The application and the chat of the run below. -/
def unheardParent : ApplicationRow := newApplicationRow (.ofNat 1) "t" "a" 0

@[inherit_doc unheardParent]
def unheardChat : ChatRow := newChatRow (.ofNat 2) (.ofNat 1) 1 0

/-- The transaction of the run below, whose first commit is carried out without the client getting
to know. -/
def unheardTransaction : Transaction where
  session := ⟨0⟩
  sent :=
    [⟨.updateAndReturn applications (tokenIs "t") (childAdded .chats "last_chat_number" 0),
        .ok (some unheardParent.toRecord)⟩,
      ⟨.insert chats unheardChat.toRecord, .ok ()⟩]
  status := .applied

theorem createChat_unheard :
    (program ⟨2, .zero⟩ (.createChat "t")).Runs Ledger.Kept .empty
        ⟨[unheardTransaction], some (.ok ())⟩ (.ok unheardChat.toModel) ∧
      AppliedOnce (.createChat "t") ⟨[unheardTransaction], some (.ok ())⟩
        (.ok unheardChat.toModel) := by
  have hruns : (program ⟨2, .zero⟩ (.createChat "t")).Runs Ledger.Kept .empty
      ⟨[unheardTransaction], some (.ok ())⟩ (.ok unheardChat.toModel) := by
    unfold program script createChat inTransaction RetryPolicy.allocate RetryPolicy.retry
    simp only [RetryPolicy.attemptFrom]
    refine .ask (β := Except Failure Session) (.ok ⟨0⟩) _ ⟨by simp [Ledger.empty], rfl⟩ ?_
    refine .ask (β := Int) 0 _ rfl ?_
    refine .ask (β := Except Failure (Option Record)) (.ok (some unheardParent.toRecord)) _
      ⟨_, ⟨[], _, _, [], rfl, rfl, rfl, rfl⟩, rfl⟩ ?_
    refine .ask (β := Int) 0 _ rfl ?_
    refine .ask (β := ObjectId) (.ofNat 2) _ rfl ?_
    refine .ask (β := Except Failure Unit) (.ok ()) _
      ⟨_, ⟨[], _, _, [], rfl, rfl, rfl, rfl⟩, rfl⟩ ?_
    refine .ask (β := Except Failure Unit) (.error { cause := .other, commitUnknown := true }) _
      ⟨_, ⟨[], _, _, [], rfl, rfl, ⟨.applied, .unheard (by decide), rfl⟩, rfl⟩, rfl⟩ ?_
    refine .ask (β := Except Failure Unit) (.ok ()) _
      ⟨_, ⟨[], _, _, [], rfl, rfl, ⟨.applied, .again, rfl⟩, rfl⟩, rfl⟩ ?_
    exact .done
  exact ⟨hruns, program_appliedOnce rfl hruns⟩

end Operations

end ChatService.Database
