import ChatService.Proofs.Database.Ledger
import ChatService.Proofs.Store.Retry

/-!
# How transactions end

The end of a transaction is told by the answers to its commits: `finish` sends the commit again
while its outcome is unknown, a bounded number of times, and takes the last answer for the outcome.
A unit of work that failed is aborted and never committed.  A call begins no more transactions than
it has attempts, and sends no more commits in each of them.
-/

namespace ChatService.Database

open Store (Operation RetryPolicy Scope Stops)

variable {α β : Type}

/-! ## commits and their answers -/

/-- Nobody knows whether the commit was carried out. -/
def IsUnknown : Except Failure Unit → Prop
  | .error f => f.commitUnknown = true
  | .ok _ => False

/-- A commit that was sent in a session. -/
def committing (session : Session) (answer : Except Failure Unit) : Exchange :=
  ⟨.send (some session) .commit, answer⟩

/-- An abort that was sent in a session. -/
def aborting (session : Session) (answer : Except Failure Unit) : Exchange :=
  ⟨.send (some session) .abort, answer⟩

def Exchange.isCommit : Exchange → Bool
  | ⟨.send (some _) .commit, _⟩ => true
  | _ => false

/-- Everything that is asked for is written down with its answer.  Commits are answered from a
stream, one after the other and from number 1 on; all else is answered in any way. -/
def Streamed (commits : Nat → Except Failure Unit) : Rule (List Exchange) :=
  fun trace exchange trace' =>
    trace' = trace ++ [exchange] ∧
      match exchange with
      | ⟨.send (some _) .commit, answer⟩ =>
        answer = commits (trace.countP Exchange.isCommit + 1)
      | _ => True

/-- The commits after the first `n` ones, up to number `c`, as they were answered. -/
def commitsTo (session : Session) (commits : Nat → Except Failure Unit) (n c : Nat) :
    List Exchange :=
  (List.range' (n + 1) (c - n)).map fun k => committing session (commits k)

section Finish

variable {session : Session} {commits : Nat → Except Failure Unit} {trace trace' : List Exchange}
  {n : Nat}

/-- A commit takes one answer from the stream. -/
theorem runs_commit_bind {f : Except Failure Unit → Program β} {final : β}
    (hn : trace.countP Exchange.isCommit = n) :
    (Program.asking (.send (some session) .commit) >>= f).Runs (Streamed commits) trace trace'
        final ↔
      (f (commits (n + 1))).Runs (Streamed commits)
        (trace ++ [committing session (commits (n + 1))]) trace' final := by
  simp only [Program.runs_bind, Program.runs_asking]
  constructor
  · rintro ⟨answer, trace₁, ⟨rfl, hanswer⟩, hnext⟩
    obtain rfl : answer = commits (n + 1) := hn ▸ hanswer
    exact hnext
  · intro hnext
    exact ⟨commits (n + 1), _, ⟨rfl, hn ▸ rfl⟩, hnext⟩

/-- An outcome that is known ends the loop. -/
theorem runs_commit_of_known (hn : trace.countP Exchange.isCommit = n)
    (h : ¬ IsUnknown (commits (n + 1))) (left : Nat) {answer : Except Failure Unit} :
    (commit session left).Runs (Streamed commits) trace trace' answer ↔
      trace' = trace ++ [committing session (commits (n + 1))] ∧ answer = commits (n + 1) := by
  cases left with
  | zero => exact (runs_commit_bind (f := pure) hn).trans Program.runs_done
  | succ left =>
      refine (runs_commit_bind hn).trans ?_
      cases hcommit : commits (n + 1) with
      | ok sent => exact Program.runs_done
      | error f =>
          have hknown : ¬ f.commitUnknown = true := by simpa [hcommit, IsUnknown] using h
          dsimp only
          rw [if_neg hknown]
          exact Program.runs_done

/-- An outcome that is not leads to the next commit, if there is one left. -/
theorem runs_commit_of_unknown (hn : trace.countP Exchange.isCommit = n)
    (h : IsUnknown (commits (n + 1))) (left : Nat) {answer : Except Failure Unit} :
    (commit session (left + 1)).Runs (Streamed commits) trace trace' answer ↔
      (commit session left).Runs (Streamed commits)
        (trace ++ [committing session (commits (n + 1))]) trace' answer := by
  refine (runs_commit_bind hn).trans ?_
  cases hcommit : commits (n + 1) with
  | ok sent => simp [hcommit, IsUnknown] at h
  | error f =>
      have hunknown : f.commitUnknown = true := by simpa [hcommit, IsUnknown] using h
      dsimp only
      rw [if_pos hunknown]

theorem countP_committing (session : Session) (answer : Except Failure Unit)
    (hn : trace.countP Exchange.isCommit = n) :
    (trace ++ [committing session answer]).countP Exchange.isCommit = n + 1 := by
  simp [List.countP_append, hn, committing, Exchange.isCommit]

theorem commitsTo_self (session : Session) (commits : Nat → Except Failure Unit) (n : Nat) :
    commitsTo session commits n (n + 1) = [committing session (commits (n + 1))] := by
  simp [commitsTo]

theorem commitsTo_cons {c : Nat} (h : n + 1 < c) :
    commitsTo session commits n c =
      committing session (commits (n + 1)) :: commitsTo session commits (n + 1) c := by
  have hc : c - n = (c - (n + 1)) + 1 := by omega
  rw [commitsTo, hc, List.range'_succ, List.map_cons]
  rfl

/-- **The loop of commits**, begun after `n` commits: the answers say when it stops, and the last
one is the outcome. -/
theorem runs_commit (session : Session) (commits : Nat → Except Failure Unit) (left : Nat)
    (trace : List Exchange) (hn : trace.countP Exchange.isCommit = n) :
    ∃ c, Stops (fun k => IsUnknown (commits k)) n (n + 1 + left) c ∧
      ∀ trace' answer, (commit session left).Runs (Streamed commits) trace trace' answer ↔
        trace' = trace ++ commitsTo session commits n c ∧ answer = commits c := by
  induction left generalizing trace n with
  | zero =>
      refine ⟨n + 1, Store.stops_last, fun trace' answer => ?_⟩
      rw [commitsTo_self]
      exact (runs_commit_bind (f := pure) hn).trans Program.runs_done
  | succ left ih =>
      by_cases hunknown : IsUnknown (commits (n + 1))
      · obtain ⟨c, hstops, hruns⟩ := ih _ (countP_committing session _ hn)
        refine ⟨c, .next hunknown (Nat.add_right_comm (n + 1) 1 left ▸ hstops), ?_⟩
        intro trace' answer
        rw [runs_commit_of_unknown hn hunknown, hruns, commitsTo_cons hstops.lt,
          List.append_assoc, List.singleton_append]
      · refine ⟨n + 1, Store.stops_here hunknown (by omega), fun trace' answer => ?_⟩
        rw [commitsTo_self]
        exact runs_commit_of_known hn hunknown (left + 1)

/-! ## the end of a transaction -/

/-- How `finish` ends a transaction in which a unit of work came to a result: what it sends, and
what it answers. -/
inductive Finished (m : Nat) (session : Session) (commits : Nat → Except Failure Unit) :
    Except StoreError α → List Exchange → Except StoreError α → Prop where
  /-- A failure of the unit is its own, whatever the abort is answered. -/
  | aborted {e : StoreError} (answer : Except Failure Unit) :
      Finished m session commits (.error e) [aborting session answer] (.error e)
  /-- The first known outcome is a success. -/
  | committed {value : α} {c : Nat} (hstops : Stops (fun k => IsUnknown (commits k)) 0 m c)
      (hlast : commits c = .ok ()) :
      Finished m session commits (.ok value) (commitsTo session commits 0 c) (.ok value)
  /-- The first known outcome is a failure, or the last one that is asked for is unknown. -/
  | refused {value : α} {c : Nat} {f : Failure}
      (hstops : Stops (fun k => IsUnknown (commits k)) 0 m c) (hlast : commits c = .error f) :
      Finished m session commits (.ok value) (commitsTo session commits 0 c)
        (.error f.toStoreError)

theorem runs_finish_of_error (policy : RetryPolicy) (e : StoreError)
    {answer : Except StoreError α} :
    (finish policy session (.error e)).Runs (Streamed commits) trace trace' answer ↔
      ∃ aborted, trace' = trace ++ [aborting session aborted] ∧ answer = .error e := by
  refine Program.runs_bind.trans ?_
  simp only [Program.runs_asking]
  constructor
  · rintro ⟨aborted, trace₁, ⟨rfl, -⟩, hdone⟩
    obtain ⟨rfl, rfl⟩ := Program.runs_done.mp hdone
    exact ⟨aborted, rfl, rfl⟩
  · rintro ⟨aborted, rfl, rfl⟩
    exact ⟨aborted, _, ⟨rfl, trivial⟩, .done⟩

theorem runs_finish_of_ok (policy : RetryPolicy) (session : Session)
    (commits : Nat → Except Failure Unit) (value : α) :
    ∃ c, Stops (fun k => IsUnknown (commits k)) 0 (max 1 policy.maxAttempts) c ∧
      ∀ trace' answer,
        (finish policy session (.ok value)).Runs (Streamed commits) [] trace' answer ↔
        trace' = commitsTo session commits 0 c ∧
          answer = (Script.sent (commits c)).map fun _ => value := by
  obtain ⟨c, hstops, hruns⟩ := runs_commit session commits (policy.maxAttempts - 1) [] rfl
  have hm : 0 + 1 + (policy.maxAttempts - 1) = max 1 policy.maxAttempts := by omega
  refine ⟨c, hm ▸ hstops, fun trace' answer => Program.runs_bind.trans ?_⟩
  simp only [hruns]
  constructor
  · rintro ⟨_, _, ⟨rfl, rfl⟩, hdone⟩
    exact Program.runs_done.mp hdone
  · rintro ⟨rfl, rfl⟩
    exact ⟨_, _, ⟨rfl, rfl⟩, .done⟩

theorem runs_finish_iff (policy : RetryPolicy) (session : Session) (result : Except StoreError α)
    (commits : Nat → Except Failure Unit) (trace : List Exchange) (answer : Except StoreError α) :
    (finish policy session result).Runs (Streamed commits) [] trace answer ↔
      Finished (max 1 policy.maxAttempts) session commits result trace answer := by
  cases result with
  | error e =>
      rw [runs_finish_of_error]
      constructor
      · rintro ⟨aborted, rfl, rfl⟩
        exact .aborted aborted
      · rintro (aborted | _ | _)
        exact ⟨aborted, rfl, rfl⟩
  | ok value =>
      obtain ⟨c, hstops, hruns⟩ := runs_finish_of_ok policy session commits value
      rw [hruns]
      constructor
      · rintro ⟨rfl, rfl⟩
        cases hlast : commits c with
        | ok sent => exact .committed hstops hlast
        | error f => exact .refused hstops hlast
      · rintro (_ | ⟨hstops', hlast⟩ | ⟨hstops', hlast⟩)
        · obtain rfl := hstops.unique hstops'
          exact ⟨rfl, by rw [hlast]; rfl⟩
        · obtain rfl := hstops.unique hstops'
          exact ⟨rfl, by rw [hlast]; rfl⟩

/-- Whatever the answers, the transaction is ended. -/
theorem exists_runs_finish (policy : RetryPolicy) (session : Session)
    (result : Except StoreError α) (commits : Nat → Except Failure Unit) :
    ∃ trace answer, (finish policy session result).Runs (Streamed commits) [] trace answer := by
  cases result with
  | error e => exact ⟨_, _, (runs_finish_of_error policy e).mpr ⟨.ok (), rfl, rfl⟩⟩
  | ok value =>
      obtain ⟨c, -, hruns⟩ := runs_finish_of_ok policy session commits value
      exact ⟨_, _, (hruns _ _).mpr ⟨rfl, rfl⟩⟩

end Finish

/-! ## how many transactions there are -/

/-- A transaction that was asked for: its session, if there is one, and how often it was sent a
commit. -/
structure Begun where
  session : Option Session
  commits : Nat

/-- One more commit, for the newest transaction of a session. -/
def committedIn (session : Session) : List Begun → List Begun
  | [] => [⟨some session, 1⟩]
  | t :: rest =>
    if t.session = some session then { t with commits := t.commits + 1 } :: rest
    else t :: committedIn session rest

/-- The transactions that were asked for, the newest first, and whatever answers. -/
def Tried : Rule (List Begun) := fun l exchange l' =>
  match exchange with
  | ⟨.begin, .ok session⟩ => l' = ⟨some session, 0⟩ :: l
  | ⟨.begin, .error _⟩ => l' = ⟨none, 0⟩ :: l
  | ⟨.send (some session) .commit, _⟩ => l' = committedIn session l
  | _ => l' = l

/-- There are at most `m` transactions, and at most `m` commits in each of them. -/
structure Bounded (m : Nat) (l : List Begun) : Prop where
  transactions : l.length ≤ m
  commits : ∀ t ∈ l, t.commits ≤ m

section Count

variable {policy : RetryPolicy} {work : Session → Script α} {l : List Begun}

theorem committedIn_newest (session : Session) (n : Nat) (rest : List Begun) :
    committedIn session (⟨some session, n⟩ :: rest) = ⟨some session, n + 1⟩ :: rest :=
  if_pos rfl

/-- A unit of work leaves the beginning and the end of transactions to others. -/
theorem tried_of_isWithin {session : Session} {request : Ask β} {answer : β} {l' : List Begun}
    (hwithin : request.IsWithin session β) (htried : Tried l ⟨request, answer⟩ l') :
    l' = l := by
  cases request with
  | begin => exact hwithin.elim
  | send used command =>
      cases used with
      | none => exact htried
      | some used =>
          cases command with
          | commit => exact hwithin.elim
          | _ => exact htried
  | _ => exact htried

theorem commit_tried (session : Session) (left n : Nat) (rest : List Begun) :
    (commit session left).Ensures Tried
      (fun l' _ => ∃ sent ≤ left + 1, l' = ⟨some session, n + sent⟩ :: rest)
      (⟨some session, n⟩ :: rest) := by
  induction left generalizing n with
  | zero =>
      rintro answer l' rfl
      exact ⟨1, Nat.le_refl 1, committedIn_newest session n rest⟩
  | succ left ih =>
      refine Program.ensures_bind (Program.ensures_asking fun answer l' htried => ?_)
      obtain rfl : l' = ⟨some session, n + 1⟩ :: rest :=
        htried.trans (committedIn_newest session n rest)
      have hended : ∃ sent ≤ left + 1 + 1,
          (⟨some session, n + 1⟩ :: rest : List Begun) = ⟨some session, n + sent⟩ :: rest :=
        ⟨1, by omega, rfl⟩
      cases answer with
      | ok sent => exact hended
      | error f =>
          dsimp only
          split
          · refine (ih (n + 1)).imp ?_
            rintro l' _ ⟨sent, hsent, rfl⟩
            exact ⟨sent + 1, by omega, by rw [Nat.add_assoc n 1 sent, Nat.add_comm 1 sent]⟩
          · exact hended

theorem finish_tried (session : Session) (result : Except StoreError α) (rest : List Begun) :
    (finish policy session result).Ensures Tried
      (fun l' _ => ∃ t : Begun, t.commits ≤ max 1 policy.maxAttempts ∧ l' = t :: rest)
      (⟨some session, 0⟩ :: rest) := by
  cases result with
  | error e =>
      refine Program.ensures_bind (Program.ensures_asking ?_)
      rintro answer l' rfl
      exact ⟨_, Nat.zero_le _, rfl⟩
  | ok value =>
      refine Program.ensures_bind ((commit_tried session _ 0 rest).imp ?_)
      rintro l' answer ⟨sent, hsent, rfl⟩
      exact ⟨⟨some session, 0 + sent⟩, by dsimp only; omega, rfl⟩

/-- An attempt begins one transaction. -/
theorem once_tried (hwork : ∀ session, (work session).run.Asks (Ask.IsWithin session)) :
    (once policy work).Ensures Tried
      (fun l' _ => ∃ t : Begun, t.commits ≤ max 1 policy.maxAttempts ∧ l' = t :: l) l := by
  refine Program.ensures_bind (Program.ensures_asking fun answer l' htried => ?_)
  cases answer with
  | error f => exact ⟨_, Nat.zero_le _, htried⟩
  | ok session =>
      obtain rfl : l' = ⟨some session, 0⟩ :: l := htried
      refine Program.ensures_bind ((Program.ensures_of_asks (hwork session)
        fun _ _ _ => tried_of_isWithin).imp ?_)
      rintro l' result rfl
      exact finish_tried session result l

/-- There is an attempt left for every transaction that may still be begun. -/
theorem inTransaction_tried
    (hwork : ∀ session, (work session).run.Asks (Ask.IsWithin session)) (scope : Scope) :
    Script.Ensures Tried (fun l' _ => Bounded (max 1 policy.maxAttempts) l')
      (inTransaction policy scope work) [] := by
  let inv : Nat → List Begun → Prop := fun left l =>
    l.length + left ≤ max 1 policy.maxAttempts ∧ ∀ t ∈ l, t.commits ≤ max 1 policy.maxAttempts
  have hattempts : Program.Ensures Tried (fun l' _ => ∃ left, inv left l')
      (inTransaction policy scope work).run [] := by
    refine ensures_attempts inv (fun left l' _ => inv left l') ?_ (fun _ _ _ => id) ?_
      (fun _ _ _ => id) (policy.maxAttempts - 1) 1 ⟨by simp; omega, by simp⟩
    · rintro left l ⟨hlength, hcommits⟩
      refine (once_tried hwork).imp ?_
      rintro l' _ ⟨t, ht, rfl⟩
      refine ⟨?_, List.forall_mem_cons.mpr ⟨ht, hcommits⟩⟩
      rw [List.length_cons]
      omega
    · rintro left l length l' hinv rfl
      exact hinv
  refine hattempts.imp ?_
  rintro l' _ ⟨left, hlength, hcommits⟩
  exact ⟨by omega, hcommits⟩

theorem applicationRow_tried (token : String) :
    (applicationRow token).Ensures Tried (fun l' _ => l' = l) l := by
  refine Script.ensures_bind (Script.ensures_send fun answer l' htried => ?_)
  obtain rfl : l' = l := htried
  cases answer <;> rfl

theorem program_tried {operation : Operation α} (hunit : runsUnit operation = true) :
    (program policy operation).Ensures Tried
      (fun l' _ => Bounded (max 1 policy.maxAttempts) l') [] := by
  have hnone : Bounded (max 1 policy.maxAttempts) [] := ⟨Nat.zero_le _, by simp⟩
  cases operation with
  | createChat token => exact inTransaction_tried UnitOf.createChat.within _
  | deleteChat token number =>
      refine Script.ensures_bind ((applicationRow_tried _).imp ?_)
      rintro l' (e | application) rfl
      · exact hnone
      · exact inTransaction_tried (UnitOf.deleteChat application.id).within _
  | createMessage token number body =>
      refine Script.ensures_bind (Script.ensures_ofExcept ?_)
      cases hbody : Store.validateBody body with
      | error e => exact hnone
      | ok text =>
          refine Script.ensures_bind ((applicationRow_tried _).imp ?_)
          rintro l' (e | application) rfl
          · exact hnone
          · exact inTransaction_tried (UnitOf.createMessage application.id hbody).within _
  | _ => contradiction

end Count

/-- **Transactions are ended by their answers, and within the bound**: by every policy, and however
the server answers. -/
theorem transactions_end (policy : RetryPolicy) :
    (∀ {α : Type} (session : Session) (result : Except StoreError α)
        (commits : Nat → Except Failure Unit),
      (∃ trace answer, (finish policy session result).Runs (Streamed commits) [] trace answer) ∧
        ∀ trace answer, (finish policy session result).Runs (Streamed commits) [] trace answer ↔
          Finished (max 1 policy.maxAttempts) session commits result trace answer) ∧
      ∀ {α : Type} (operation : Operation α) (l : List Begun) (answer : Except StoreError α),
        runsUnit operation = true → (program policy operation).Runs Tried [] l answer →
          Bounded (max 1 policy.maxAttempts) l := by
  refine ⟨fun session result commits => ⟨?_, ?_⟩, fun operation l answer hunit hruns => ?_⟩
  · exact exists_runs_finish policy session result commits
  · exact runs_finish_iff policy session result commits
  · exact (program_tried hunit).of_runs hruns

/-- A call whose first attempt loses against another one, and whose second one hears of its commit
only when it is sent again. -/
theorem createChat_tried :
    runsUnit (.createChat "t") = true ∧
      (program ⟨2, .zero⟩ (.createChat "t")).Runs Tried [] [⟨some ⟨1⟩, 2⟩, ⟨some ⟨0⟩, 0⟩]
        (.ok unheardChat.toModel) ∧
      Bounded 2 [⟨some ⟨1⟩, 2⟩, ⟨some ⟨0⟩, 0⟩] := by
  have hruns : (program ⟨2, .zero⟩ (.createChat "t")).Runs Tried []
      [⟨some ⟨1⟩, 2⟩, ⟨some ⟨0⟩, 0⟩] (.ok unheardChat.toModel) := by
    unfold program script createChat inTransaction RetryPolicy.allocate RetryPolicy.retry
    simp only [RetryPolicy.attemptFrom]
    refine .ask (β := Except Failure Session) (.ok ⟨0⟩) _ rfl ?_
    refine .ask (β := Int) 0 _ rfl ?_
    refine .ask (β := Except Failure (Option Record))
      (.error { cause := .other, transient := true }) _ rfl ?_
    refine .ask (β := Except Failure Unit) (.ok ()) _ rfl ?_
    refine .ask (β := Except Failure Session) (.ok ⟨1⟩) _ rfl ?_
    refine .ask (β := Int) 0 _ rfl ?_
    refine .ask (β := Except Failure (Option Record)) (.ok (some unheardParent.toRecord)) _ rfl ?_
    refine .ask (β := Int) 0 _ rfl ?_
    refine .ask (β := ObjectId) (.ofNat 2) _ rfl ?_
    refine .ask (β := Except Failure Unit) (.ok ()) _ rfl ?_
    refine .ask (β := Except Failure Unit) (.error { cause := .other, commitUnknown := true }) _
      rfl ?_
    refine .ask (β := Except Failure Unit) (.ok ()) _ rfl ?_
    exact .done
  exact ⟨rfl, hruns, (transactions_end ⟨2, .zero⟩).2 _ _ _ rfl hruns⟩

end ChatService.Database
