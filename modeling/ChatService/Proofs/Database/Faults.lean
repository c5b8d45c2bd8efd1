import ChatService.Proofs.Database.Records
import ChatService.Proofs.Database.Run

/-!
# Transactions on a server with faults

A server may fail any command that does not end a transaction, and then does not carry it out.
Whatever fails, a transaction that is aborted leaves the server as it was before, so a unit of work
either happens as a whole or not at all.
-/

namespace ChatService.Database

open Server (State Records recordsOf execute isMatch openFor serve)
open Store (RetryPolicy Scope)

/-- The answers of a server that may fail any command but those that end a transaction. -/
def Faulted : Rule State := fun s exchange s' =>
  match exchange with
  | ⟨.send session .commit, answer⟩ => (s', answer) = serve session s .commit
  | ⟨.send session .abort, answer⟩ => (s', answer) = serve session s .abort
  | ⟨.send session command, answer⟩ =>
    (s', answer) = serve session s command ∨ s' = s ∧ ∃ f, answer = .error f
  | _ => s' = s

/-- What answers a program besides the records: the readings of the clock, fresh ids and tokens,
and the commands that fail, each by the number of the request. -/
structure Surroundings where
  clock : Nat → Int
  ids : Nat → ObjectId
  tokens : Nat → String
  faults : Nat → Option Failure

/-- A command that ends a transaction. -/
def Command.ends : {α : Type} → Command α → Bool
  | _, .commit | _, .abort => true
  | _, _ => false

namespace Surroundings

/-- Answers a request, and counts it. -/
def answer (w : Surroundings) : {β : Type} → Ask β → StateM (State × Nat) β
  | _, .clock => fun (s, n) => (w.clock n, s, n + 1)
  | _, .freshId => fun (s, n) => (w.ids n, s, n + 1)
  | _, .freshToken => fun (s, n) => (w.tokens n, s, n + 1)
  | _, .pause _ => fun (s, n) => ((), s, n + 1)
  | _, .begin => fun (s, n) =>
    match w.faults n with
    | some f => (.error f, s, n + 1)
    | none => (.ok ⟨n⟩, s, n + 1)
  | _, .send session command => fun (s, n) =>
    match w.faults n, command.ends with
    | some f, false => (.error f, s, n + 1)
    | _, _ =>
      let (s, result) := serve session s command
      (result, s, n + 1)

theorem faulted_answer (w : Surroundings) {β : Type} (t : State × Nat) (request : Ask β) :
    Faulted t.1 ⟨request, (w.answer request t).1⟩ (w.answer request t).2.1 := by
  obtain ⟨s, n⟩ := t
  cases request with
  | begin =>
      simp only [answer]
      cases w.faults n <;> exact .refl _
  | send session command =>
      simp only [answer]
      cases hfault : w.faults n with
      | none => cases command <;> first | exact .refl _ | exact .inl (.refl _)
      | some f =>
          cases command <;> first | exact .refl _ | exact .inr ⟨.refl _, f, .refl _⟩
  | _ => exact .refl _

end Surroundings

/-- A command that belongs to a unit of work. -/
def Command.IsWork : {α : Type} → Command α → Prop
  | _, .commit | _, .abort | _, .createIndex .. => False
  | _, _ => True

/-- A server on which a transaction has begun. -/
def begun (s₀ : State) (session : Session) (records : Records) : State :=
  { s₀ with records, transaction := some (session, s₀.records) }

/-- A server in a transaction that has not ended yet, and may not have sent anything. -/
def InTransaction (s₀ : State) (session : Session) (s : State) : Prop :=
  s = s₀ ∨ ∃ records, s = begun s₀ session records

/-- A unit of work that did not end its transaction: it failed, or did what it should do. -/
def Pending {α : Type} (s₀ : State) (session : Session) (done : Records → α → Prop) (s : State) :
    Except StoreError α → Prop
  | .ok value => ∃ records, s = begun s₀ session records ∧ done records value
  | .error _ => InTransaction s₀ session s

/-- A failure changes nothing; a success does what it should do, and nothing else. -/
def Atomic {α : Type} (s₀ : State) (done : Records → α → Prop) (s : State) :
    Except StoreError α → Prop
  | .ok value => ∃ records, s = { s₀ with records } ∧ done records value
  | .error _ => s = s₀

@[simp] theorem begun_records (s₀ : State) (session : Session) (records : Records) :
    (begun s₀ session records).records = records := rfl

variable {α β : Type} {s₀ s s' : State} {session : Session} {records : Records}
  {done : Records → α → Prop}

/-! ## commands of a unit of work -/

theorem openFor_of_inTransaction (hidle : s₀.transaction = none)
    (hin : InTransaction s₀ session s) : openFor session s = begun s₀ session s.records := by
  obtain rfl | ⟨records, rfl⟩ := hin
  · simp [openFor, hidle, begun]
  · simp [openFor, begun]

/-- Within a transaction, commands change records only. -/
theorem execute_begun (s₀ : State) (session : Session) (records : Records) {command : Command α}
    (hwork : command.IsWork) :
    ∃ records', (execute (begun s₀ session records) command).1 = begun s₀ session records' := by
  cases command with
  | createIndex | commit | abort => exact hwork.elim
  | insert collection record =>
      simp only [execute, Server.insert]
      split
      · exact ⟨records, rfl⟩
      · exact ⟨_, rfl⟩
  | updateAndReturn collection filter u | update collection filter u =>
      simp only [execute, Server.update]
      split
      · exact ⟨_, rfl⟩
      · exact ⟨records, rfl⟩
  | find =>
      simp only [execute]
      split
      · exact ⟨records, rfl⟩
      · exact ⟨records, rfl⟩
  | replaceOrInsert =>
      simp only [execute, Server.insert]
      split
      · exact ⟨_, rfl⟩
      · split
        · exact ⟨records, rfl⟩
        · exact ⟨_, rfl⟩
  | _ => exact ⟨_, rfl⟩

theorem serve_of_isWork {command : Command α} (hwork : command.IsWork) :
    serve (some session) s command = execute (openFor session s) command := by
  cases command with
  | createIndex | commit | abort => exact hwork.elim
  | _ => rfl

theorem faulted_send {command : Command α} (hwork : command.IsWork) {used : Option Session}
    {answer : Except Failure α} (h : Faulted s ⟨.send used command, answer⟩ s') :
    (s', answer) = serve used s command ∨ s' = s ∧ ∃ f, answer = .error f := by
  cases command with
  | createIndex | commit | abort => exact hwork.elim
  | _ => exact h

/-- **A command within a unit of work** fails, or is carried out on the records of the
transaction. -/
theorem ensures_send_within {command : Command α} {post : State → Except StoreError α → Prop}
    (hidle : s₀.transaction = none) (hwork : command.IsWork) (hin : InTransaction s₀ session s)
    (herror : ∀ s' e, InTransaction s₀ session s' → post s' (.error e))
    (hok : ∀ records answer,
      execute (begun s₀ session s.records) command = (begun s₀ session records, .ok answer) →
        post (begun s₀ session records) (.ok answer)) :
    (Script.send (some session) command).Ensures Faulted post s := by
  refine Script.ensures_send fun answer s' hfaulted => ?_
  obtain hserved | ⟨rfl, f, rfl⟩ := faulted_send hwork hfaulted
  · rw [serve_of_isWork hwork, openFor_of_inTransaction hidle hin] at hserved
    obtain ⟨records, hrecords⟩ := execute_begun s₀ session s.records hwork
    obtain rfl : s' = begun s₀ session records := (congrArg Prod.fst hserved).trans hrecords
    cases answer with
    | ok answer => exact hok records answer hserved.symm
    | error f => exact herror _ _ (.inr ⟨records, rfl⟩)
  · exact herror s' _ hin

/-! ### what a command did -/

section Executed

variable {collection : String} {filter : Filter} {records' : Records}

theorem updateAndReturn_begun {u : Update} {found : Option Record}
    (h : execute (begun s₀ session records) (.updateAndReturn collection filter u) =
      (begun s₀ session records', .ok found)) :
    ∃ changed, Server.changeFirst (isMatch filter) (Server.applyUpdate u)
        (recordsOf collection records) = .ok changed ∧
      records' = Keyed.put collection changed records ∧
      found = (recordsOf collection records).find? (isMatch filter) := by
  obtain ⟨changed, hchange, hrecords, hfound⟩ := Server.update_eq_ok h
  exact ⟨changed, hchange, congrArg State.records hrecords, hfound⟩

theorem update_begun {u : Update} {answer : Unit}
    (h : execute (begun s₀ session records) (.update collection filter u) =
      (begun s₀ session records', .ok answer)) :
    ∃ changed, Server.changeFirst (isMatch filter) (Server.applyUpdate u)
        (recordsOf collection records) = .ok changed ∧
      records' = Keyed.put collection changed records := by
  cases hupdate : Server.update (begun s₀ session records) collection filter u with
  | mk s' answer' =>
      simp only [execute, hupdate, Prod.mk.injEq] at h
      obtain ⟨rfl, hanswer⟩ := h
      cases answer' with
      | error f => simp [Except.map] at hanswer
      | ok found =>
          obtain ⟨changed, hchange, hrecords, -⟩ := Server.update_eq_ok hupdate
          exact ⟨changed, hchange, congrArg State.records hrecords⟩

theorem insert_begun {record : Record} {answer : Unit}
    (h : execute (begun s₀ session records) (.insert collection record) =
      (begun s₀ session records', .ok answer)) :
    (∀ other ∈ recordsOf collection records, Keyed.get? "_id" other ≠ Keyed.get? "_id" record) ∧
      records' = Keyed.put collection (recordsOf collection records ++ [record]) records :=
  (Server.insert_eq_ok h).imp_right (congrArg State.records)

theorem removeAndReturn_begun {found : Option Record}
    (h : execute (begun s₀ session records) (.removeAndReturn collection filter) =
      (begun s₀ session records', .ok found)) :
    records' =
        Keyed.put collection ((recordsOf collection records).eraseP (isMatch filter)) records ∧
      found = (recordsOf collection records).find? (isMatch filter) := by
  simp only [execute, Prod.mk.injEq, Except.ok.injEq] at h
  exact ⟨(congrArg State.records h.1).symm, h.2.symm⟩

theorem removeAll_begun {removed : Nat}
    (h : execute (begun s₀ session records) (.removeAll collection filter) =
      (begun s₀ session records', .ok removed)) :
    records' =
      Keyed.put collection
        ((recordsOf collection records).filter fun record => !isMatch filter record) records := by
  simp only [execute, Prod.mk.injEq] at h
  exact (congrArg State.records h.1).symm

end Executed

/-! ## commands outside of transactions -/

/-- A command that only looks leaves the server as it is, also when it fails. -/
theorem ensures_send_look {command : Command α} {post : State → Except StoreError α → Prop}
    (hwork : command.IsWork) (hlooks : (execute s command).1 = s)
    (h : ∀ result : Except StoreError α,
      (∀ answer, result = .ok answer → (execute s command).2 = .ok answer) → post s result) :
    (Script.send none command).Ensures Faulted post s := by
  refine Script.ensures_send fun answer s' hfaulted => ?_
  obtain hserved | ⟨rfl, f, rfl⟩ := faulted_send hwork hfaulted
  · have hexecute : (s', answer) = execute s command := hserved
    obtain rfl : s' = s := (congrArg Prod.fst hexecute).trans hlooks
    refine h _ fun answer' hanswer => ?_
    rw [← hexecute]
    cases answer with
    | ok answer => exact congrArg Except.ok (Except.ok.inj hanswer)
    | error f => contradiction
  · exact h _ fun _ hanswer => by contradiction

/-- What a program asks for that only looks. -/
def Ask.Looks : (β : Type) → Ask β → Prop
  | _, .send none (.findOne ..) | _, .send none (.find ..) | _, .send none (.count ..)
  | _, .send none .ping => True
  | _, _ => False

/-- A program that only looks changes nothing. -/
theorem ensures_of_looks {p : Program α} (h : p.Asks Ask.Looks) :
    p.Ensures Faulted (fun s' _ => s' = s) s := by
  induction p with
  | done answer => rfl
  | ask request next ih =>
      intro answer s' hfaulted
      have hsame : s' = s := by
        cases request with
        | send session command =>
            cases session with
            | some session => exact h.1.elim
            | none =>
                cases command with
                | findOne | count | ping =>
                    obtain hserved | ⟨rfl, -⟩ := hfaulted
                    · exact congrArg Prod.fst hserved
                    · rfl
                | find =>
                    obtain hserved | ⟨rfl, -⟩ := hfaulted
                    · have hserved := congrArg Prod.fst hserved
                      simp only [serve, execute] at hserved
                      split at hserved <;> exact hserved
                    · rfl
                | _ => exact h.1.elim
        | _ => exact h.1.elim
      subst hsame
      exact ih answer (h.2 answer)

/-! ## the end of a transaction -/

/-- A commit keeps what the unit of work did. -/
theorem commit_atomic (hidle : s₀.transaction = none) (left : Nat) :
    (commit session left).Ensures Faulted
      (fun s answer => s = { s₀ with records } ∧ answer = .ok ()) (begun s₀ session records) := by
  have hsend : (Program.asking (.send (some session) .commit)).Ensures Faulted
      (fun s answer => s = { s₀ with records } ∧ answer = .ok ()) (begun s₀ session records) := by
    refine Program.ensures_asking fun answer s' hserved => ?_
    obtain ⟨rfl, rfl⟩ := (Prod.mk.injEq ..).mp hserved
    exact ⟨by simp [begun, hidle], rfl⟩
  cases left with
  | zero => exact hsend
  | succ left =>
      refine Program.ensures_bind (hsend.imp ?_)
      rintro s answer ⟨hs, rfl⟩
      exact ⟨hs, rfl⟩

/-- An abort leaves the server as it was before the transaction. -/
theorem serve_abort (hidle : s₀.transaction = none) (hin : InTransaction s₀ session s) :
    serve (some session) s .abort = (s₀, .ok ()) := by
  obtain rfl | ⟨records, rfl⟩ := hin
  · simp [serve, hidle]
  · obtain ⟨records₀, unique, transaction⟩ := s₀
    obtain rfl : transaction = none := hidle
    rfl

theorem finish_atomic {policy : RetryPolicy} (hidle : s₀.transaction = none)
    {result : Except StoreError α} (hpending : Pending s₀ session done s result) :
    (finish policy session result).Ensures Faulted (Atomic s₀ done) s := by
  cases result with
  | ok value =>
      obtain ⟨records, rfl, hdone⟩ := hpending
      refine Program.ensures_bind ((commit_atomic hidle _).imp ?_)
      rintro s answer ⟨rfl, rfl⟩
      exact ⟨records, rfl, hdone⟩
  | error e =>
      refine Program.ensures_bind (Program.ensures_asking fun answer s' hserved => ?_)
      have hserved : (s', answer) = serve (some session) s .abort := hserved
      rw [serve_abort hidle hpending] at hserved
      exact congrArg Prod.fst hserved

variable {policy : RetryPolicy} {work : Session → Script α}

/-- **A unit of work in a transaction is atomic**, however often it is run. -/
theorem inTransaction_atomic (hidle : s₀.transaction = none)
    (hwork : ∀ session, (work session).Ensures Faulted (Pending s₀ session done) s₀)
    (scope : Scope) : (inTransaction policy scope work).Ensures Faulted (Atomic s₀ done) s₀ := by
  refine ensures_attemptFrom (fun s => s = s₀) ?_ ?_ ?_ ?_ _ _ rfl
  · rintro s rfl
    refine Program.ensures_bind (Program.ensures_asking fun answer s' hbegin => ?_)
    obtain rfl : s' = s := by cases answer <;> exact hbegin
    cases answer with
    | error f => exact .refl _
    | ok session =>
        exact Program.ensures_bind ((hwork session).imp fun s result hpending =>
          finish_atomic hidle hpending)
  · exact fun s detail hatomic => hatomic
  · rintro s length s' rfl hpause
    exact hpause
  · exact fun s attempt hs => hs

end ChatService.Database
