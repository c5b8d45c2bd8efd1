import ChatService.Proofs.Database.Faults

/-!
# Programs on a server without faults

When nothing fails, a program has one run.  `exec` is that run, and is computed along the script:
one equation for each thing that a script can ask for, and one for a whole transaction.
-/

namespace ChatService.Database

open Server (State Records recordsOf execute isMatch openFor serve)
open Store (RetryPolicy Scope)

/-- What a step reads: the clock, one token, and the ids that are handed out, from number 1 on. -/
structure Reading where
  ms : Int
  token : String
  ids : Nat → ObjectId

/-- Answers a request; the state counts the ids that were handed out. -/
def Reading.answer (r : Reading) : {β : Type} → Ask β → StateM (State × Nat) β
  | _, .clock => fun t => (r.ms, t)
  | _, .freshId => fun (s, n) => (r.ids (n + 1), s, n + 1)
  | _, .freshToken => fun t => (r.token, t)
  | _, .pause _ => fun t => ((), t)
  | _, .begin => fun t => (.ok ⟨0⟩, t)
  | _, .send session command => fun (s, n) =>
    let (s, result) := serve session s command
    (result, s, n)

variable {α β : Type}

/-- The run of a program in which nothing fails. -/
def Program.exec (r : Reading) (p : Program α) (t : State × Nat) : α × State × Nat :=
  p.run r.answer t

/-- The run of a script in which nothing fails. -/
def Script.exec (r : Reading) (x : Script α) (t : State × Nat) :
    Except StoreError α × State × Nat := Program.exec r x.run t

variable {r : Reading} {t : State × Nat} {s s₀ : State} {n : Nat} {session : Session}

/-! ## one step after the other -/

theorem Program.exec_bind {p : Program α} {f : α → Program β} :
    (p >>= f).exec r t = (f (p.exec r t).1).exec r (p.exec r t).2 := by
  induction p generalizing t with
  | done answer => rfl
  | ask request next ih => exact ih _

namespace Script

@[simp] theorem exec_pure (value : α) : exec r (pure value) t = (.ok value, t) := rfl

@[simp] theorem exec_ofExcept (answer : Except StoreError α) :
    exec r (ofExcept answer) t = (answer, t) := rfl

@[simp] theorem exec_clock : exec r (asking .clock) t = (.ok r.ms, t) := rfl

@[simp] theorem exec_freshToken : exec r (asking .freshToken) t = (.ok r.token, t) := rfl

@[simp] theorem exec_freshId :
    exec r (asking .freshId) (s, n) = (.ok (r.ids (n + 1)), s, n + 1) := rfl

@[simp] theorem exec_send_none (command : Command α) :
    exec r (send none command) (s, n) =
      (sent (execute s command).2, (execute s command).1, n) := rfl

theorem exec_bind {x : Script α} {f : α → Script β} :
    exec r (x >>= f) t =
      match exec r x t with
      | (.ok value, t) => exec r (f value) t
      | (.error e, t) => (.error e, t) := by
  refine Program.exec_bind.trans ?_
  cases h : Program.exec r x.run t with
  | mk result t' =>
      have hx : Program.exec r x t = (result, t') := h
      rw [hx]
      unfold exec
      rw [h]
      cases result <;> rfl

/-- After an answer the script goes on. -/
theorem exec_bind_of_ok {x : Script α} {f : α → Script β} {value : α} {t' : State × Nat}
    (h : exec r x t = (.ok value, t')) : exec r (x >>= f) t = exec r (f value) t' := by
  rw [exec_bind, h]

/-- After an error it does not. -/
theorem exec_bind_of_error {x : Script α} {f : α → Script β} {e : StoreError} {t' : State × Nat}
    (h : exec r x t = (.error e, t')) : exec r (x >>= f) t = (.error e, t') := by
  rw [exec_bind, h]

/-- The first command of a transaction opens it. -/
theorem exec_send_first {command : Command α} (hwork : command.IsWork)
    (hidle : s.transaction = none) :
    exec r (send (some session) command) (s, n) =
      (sent (execute (begun s session s.records) command).2,
        (execute (begun s session s.records) command).1, n) := by
  rw [← openFor_of_inTransaction hidle (.inl rfl), ← serve_of_isWork hwork]
  rfl

/-- The other commands find it open. -/
theorem exec_send_next {command : Command α} {records : Records} (hwork : command.IsWork)
    (hidle : s₀.transaction = none) :
    exec r (send (some session) command) (begun s₀ session records, n) =
      (sent (execute (begun s₀ session records) command).2,
        (execute (begun s₀ session records) command).1, n) := by
  have hopen : openFor session (begun s₀ session records) = begun s₀ session records :=
    openFor_of_inTransaction hidle (.inr ⟨records, rfl⟩)
  have hserve : serve (some session) (begun s₀ session records) command =
      execute (openFor session (begun s₀ session records)) command := serve_of_isWork hwork
  rw [hopen] at hserve
  rw [← hserve]
  rfl

theorem exec_insert {collection : String} {record : Record}
    (hfresh : ∀ other ∈ recordsOf collection s.records,
      ∀ key ∈ ["_id"] :: (Keyed.get? collection s.unique).getD [],
        Server.sameKey key other record = false) :
    exec r (send none (.insert collection record)) (s, n) =
      (.ok (), { s with
        records := Keyed.put collection (recordsOf collection s.records ++ [record]) s.records },
        n) := by
  rw [exec_send_none, execute, Server.insert_of_fresh hfresh]
  rfl

end Script

/-! ## commands of a unit of work -/

section Commands

variable {records : Records} {collection : String} {filter : Filter} {u : Update}
  {changed : List Record}

open Script (send)

theorem exec_updateAndReturn_first (hidle : s.transaction = none)
    (hchange : Server.changeFirst (isMatch filter) (Server.applyUpdate u)
      (recordsOf collection s.records) = .ok changed) :
    (send (some session) (.updateAndReturn collection filter u)).exec r (s, n) =
      (.ok ((recordsOf collection s.records).find? (isMatch filter)),
        begun s session (Keyed.put collection changed s.records), n) := by
  refine (Script.exec_send_first (by trivial) hidle).trans ?_
  rw [execute, Server.update_of_changeFirst (s := begun s session s.records) hchange]
  rfl

theorem exec_updateAndReturn_of_error {e : Failure} (hidle : s.transaction = none)
    (hchange : Server.changeFirst (isMatch filter) (Server.applyUpdate u)
      (recordsOf collection s.records) = .error e) :
    (send (some session) (.updateAndReturn collection filter u)).exec r (s, n) =
      (.error e.toStoreError, begun s session s.records, n) := by
  refine (Script.exec_send_first (by trivial) hidle).trans ?_
  rw [execute, Server.update_of_error (s := begun s session s.records) hchange]
  rfl

theorem exec_update_of_error {e : Failure} (hidle : s₀.transaction = none)
    (hchange : Server.changeFirst (isMatch filter) (Server.applyUpdate u)
      (recordsOf collection records) = .error e) :
    (send (some session) (.update collection filter u)).exec r (begun s₀ session records, n) =
      (.error e.toStoreError, begun s₀ session records, n) := by
  refine (Script.exec_send_next (by trivial) hidle).trans ?_
  rw [execute, Server.update_of_error (s := begun s₀ session records) hchange]
  rfl

theorem exec_update_next (hidle : s₀.transaction = none)
    (hchange : Server.changeFirst (isMatch filter) (Server.applyUpdate u)
      (recordsOf collection records) = .ok changed) :
    (send (some session) (.update collection filter u)).exec r (begun s₀ session records, n) =
      (.ok (), begun s₀ session (Keyed.put collection changed records), n) := by
  refine (Script.exec_send_next (by trivial) hidle).trans ?_
  rw [execute, Server.update_of_changeFirst (s := begun s₀ session records) hchange]
  rfl

theorem exec_insert_next {record : Record} (hidle : s₀.transaction = none)
    (hfresh : ∀ other ∈ recordsOf collection records,
      ∀ key ∈ ["_id"] :: (Keyed.get? collection s₀.unique).getD [],
        Server.sameKey key other record = false) :
    (send (some session) (.insert collection record)).exec r (begun s₀ session records, n) =
      (.ok (), begun s₀ session
        (Keyed.put collection (recordsOf collection records ++ [record]) records), n) := by
  refine (Script.exec_send_next (by trivial) hidle).trans ?_
  rw [execute, Server.insert_of_fresh (s := begun s₀ session records) hfresh]
  rfl

theorem exec_insert_of_taken {record other : Record} {key : List String}
    (hidle : s₀.transaction = none) (hother : other ∈ recordsOf collection records)
    (hkey : key ∈ ["_id"] :: (Keyed.get? collection s₀.unique).getD [])
    (hsame : Server.sameKey key other record = true) :
    (send (some session) (.insert collection record)).exec r (begun s₀ session records, n) =
      (.error (.writeConflict ""), begun s₀ session records, n) := by
  refine (Script.exec_send_next (by trivial) hidle).trans ?_
  rw [execute, Server.insert_of_taken (s := begun s₀ session records) hother hkey hsame]
  rfl

theorem exec_removeAndReturn_first (hidle : s.transaction = none) :
    (send (some session) (.removeAndReturn collection filter)).exec r (s, n) =
      (.ok ((recordsOf collection s.records).find? (isMatch filter)),
        begun s session
          (Keyed.put collection ((recordsOf collection s.records).eraseP (isMatch filter))
            s.records), n) :=
  Script.exec_send_first (by trivial) hidle

theorem exec_removeAll_next (hidle : s₀.transaction = none) (n : Nat) (session : Session)
    (records : Records) (collection : String) (filter : Filter) :
    ∃ removed, (send (some session) (.removeAll collection filter)).exec r
      (begun s₀ session records, n) =
        (.ok removed, begun s₀ session
          (Keyed.put collection
            ((recordsOf collection records).filter fun record => !isMatch filter record)
              records), n) :=
  ⟨_, Script.exec_send_next (by trivial) hidle⟩

end Commands

/-! ## transactions -/

section Transactions

variable {policy : RetryPolicy} {scope : Scope} {work : Session → Script α}

/-- What a first attempt answers without a conflict is the answer. -/
theorem exec_retry {label : String} {attempt : Program (Except StoreError α)}
    {result : Except StoreError α} {t' : State × Nat}
    (hconflict : ∀ detail, result ≠ .error (.writeConflict detail))
    (hattempt : attempt.exec r t = (result, t')) :
    (policy.retry pause label attempt).exec r t = (result, t') := by
  unfold RetryPolicy.retry RetryPolicy.attemptFrom
  rw [Program.exec_bind, hattempt]
  split
  · next detail hresult => exact absurd hresult (hconflict _)
  · rfl

/-- A commit is answered at once. -/
theorem exec_commit (left : Nat) :
    (commit session left).exec r (s, n) = (.ok (), { s with transaction := none }, n) := by
  cases left <;> rfl

/-- A unit of work that succeeds is run once, and kept. -/
theorem exec_inTransaction_of_ok {value : α} {records : Records} {n' : Nat}
    (hidle : s.transaction = none)
    (hwork : (work ⟨0⟩).exec r (s, n) = (.ok value, begun s ⟨0⟩ records, n')) :
    (inTransaction policy scope work).exec r (s, n) = (.ok value, { s with records }, n') := by
  refine exec_retry (by simp) ?_
  show ((work ⟨0⟩).run >>= finish policy ⟨0⟩).exec r (s, n) = _
  rw [Program.exec_bind, show Program.exec r (work ⟨0⟩).run (s, n) = _ from hwork]
  show (commit ⟨0⟩ _ >>= _).exec r _ = _
  rw [Program.exec_bind, exec_commit]
  simp only [begun, hidle]
  rfl

/-- An attempt that fails is undone. -/
theorem exec_once_of_error (policy : RetryPolicy) {e : StoreError} {s' : State} {n' : Nat}
    (hidle : s.transaction = none) (hin : InTransaction s ⟨0⟩ s')
    (hwork : (work ⟨0⟩).exec r (s, n) = (.error e, s', n')) :
    (once policy work).exec r (s, n) = (.error e, s, n') := by
  show ((work ⟨0⟩).run >>= finish policy ⟨0⟩).exec r (s, n) = _
  rw [Program.exec_bind, show Program.exec r (work ⟨0⟩).run (s, n) = _ from hwork]
  have hsend : (Program.asking (.send (some ⟨0⟩) .abort)).exec r (s', n') = (.ok (), s, n') :=
    congrArg (fun served => (served.2, served.1, n')) (serve_abort hidle hin)
  show (Program.asking (.send (some ⟨0⟩) .abort) >>= _).exec r (s', n') = _
  rw [Program.exec_bind, hsend]
  rfl

/-- A unit of work that fails without a conflict is run once, and undone. -/
theorem exec_inTransaction_of_error {e : StoreError} {s' : State} {n' : Nat}
    (hidle : s.transaction = none) (hconflict : ∀ detail, e ≠ .writeConflict detail)
    (hin : InTransaction s ⟨0⟩ s')
    (hwork : (work ⟨0⟩).exec r (s, n) = (.error e, s', n')) :
    (inTransaction policy scope work).exec r (s, n) = (.error e, s, n') :=
  exec_retry (fun detail he => hconflict detail (Except.error.inj he))
    (exec_once_of_error policy hidle hin hwork)

/-- Work that conflicts whenever it is run, and takes an id each time, is given up in the end. -/
theorem exec_attemptFrom_of_conflicts (policy : RetryPolicy) (label : String) {detail : String}
    {attempt : Program (Except StoreError α)}
    (hattempt : ∀ n, attempt.exec r (s, n) = (.error (.writeConflict detail), s, n + 1))
    (left number n : Nat) :
    (policy.attemptFrom pause label attempt left number).exec r (s, n) =
      (.error (RetryPolicy.exhausted label (number + left)), s, n + 1 + left) := by
  induction left generalizing number n with
  | zero =>
      unfold RetryPolicy.attemptFrom
      rw [Program.exec_bind, hattempt]
      rfl
  | succ left ih =>
      unfold RetryPolicy.attemptFrom
      rw [Program.exec_bind, hattempt]
      have hrest := ih (number + 1) (n + 1)
      rw [show number + 1 + left = number + (left + 1) by omega,
        show n + 1 + 1 + left = n + 1 + (left + 1) by omega] at hrest
      dsimp only
      split
      · rw [Program.exec_bind]
        exact hrest
      · exact hrest

/-- A unit of work that always conflicts is given up after the last attempt, and undone. -/
theorem exec_inTransaction_of_conflicts {detail : String} {s' : Nat → State}
    (hidle : s.transaction = none) (hin : ∀ n, InTransaction s ⟨0⟩ (s' n))
    (hwork : ∀ n, (work ⟨0⟩).exec r (s, n) = (.error (.writeConflict detail), s' n, n + 1)) :
    (inTransaction policy scope work).exec r (s, n) =
      (.error (RetryPolicy.exhausted ("number allocation for " ++ scope.name)
        (max 1 policy.maxAttempts)), s, n + max 1 policy.maxAttempts) := by
  have hgiven := exec_attemptFrom_of_conflicts policy ("number allocation for " ++ scope.name)
    (fun n => exec_once_of_error policy hidle (hin n) (hwork n))
    (policy.maxAttempts - 1) 1 n
  rw [show 1 + (policy.maxAttempts - 1) = max 1 policy.maxAttempts by omega,
    show n + 1 + (policy.maxAttempts - 1) = n + max 1 policy.maxAttempts by omega] at hgiven
  exact hgiven

end Transactions

end ChatService.Database
