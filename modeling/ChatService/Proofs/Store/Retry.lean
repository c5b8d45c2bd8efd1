import ChatService.Store.Retry
import Mathlib.Algebra.BigOperators.Intervals

/-!
# How often work is run again

A loop that goes on while its calls come to a certain thing, and at most so many times, stops after
a call that is told by what the calls come to (`Stops`).  Work that is run again is such a loop: it
ends with the first outcome that is no conflict, or gives up after its last attempt, and the waits
in between add up to a triangular number of delays.
-/

namespace ChatService.Store

/-! ## loops of calls -/

section Stops

variable {again : Nat → Prop} {n m c : Nat}

/-- A loop that goes on while `again` holds of its calls stops after call `c`: `n` calls were made
before, and call `m` is the last one in any case.  Calls are counted from 1 on. -/
structure Stops (again : Nat → Prop) (n m c : Nat) : Prop where
  lt : n < c
  le : c ≤ m
  earlier : ∀ k, n < k → k < c → again k
  last : again c → c = m

theorem stops_here (h : ¬ again (n + 1)) (hle : n + 1 ≤ m) : Stops again n m (n + 1) where
  lt := Nat.lt_succ_self n
  le := hle
  earlier k hlt hlt' := by omega
  last hagain := absurd hagain h

theorem stops_last : Stops again n (n + 1) (n + 1) where
  lt := Nat.lt_succ_self n
  le := Nat.le_refl _
  earlier k hlt hlt' := by omega
  last _ := rfl

theorem Stops.next (h : again (n + 1)) (hrest : Stops again (n + 1) m c) : Stops again n m c where
  lt := Nat.lt_of_succ_lt hrest.lt
  le := hrest.le
  earlier k hlt hlt' := by
    by_cases hk : k = n + 1
    · exact hk ▸ h
    · exact hrest.earlier k (by omega) hlt'
  last := hrest.last

/-- A loop stops after one call. -/
theorem Stops.unique (h : Stops again n m c) {c' : Nat} (h' : Stops again n m c') : c = c' := by
  rcases Nat.lt_trichotomy c c' with hlt | heq | hgt
  · have hlast := h.last (h'.earlier c h.lt hlt)
    have hle := h'.le
    omega
  · exact heq
  · have hlast := h'.last (h.earlier c' h'.lt hgt)
    have hle := h.le
    omega

/-- The first call at which the loop may stop is the one after which it does. -/
theorem Stops.eq_of_first (h : Stops again n m c) {j : Nat} (hj : n < j) (hle : j ≤ m)
    (hstop : ¬ again j) (hfirst : ∀ k, n < k → k < j → again k) : c = j :=
  h.unique ⟨hj, hle, hfirst, fun hagain => absurd hagain hstop⟩

/-- If the loop may never stop, it stops after its last call. -/
theorem Stops.eq_of_forall (h : Stops again n m c) (hagain : ∀ k, n < k → k ≤ m → again k) :
    c = m := h.last (hagain c h.lt h.le)

end Stops

namespace RetryPolicy

variable {α : Type}

/-! ## work that is run again -/

/-- The work lost against another one. -/
def IsConflict : Except StoreError α → Prop
  | .error (.writeConflict _) => True
  | _ => False

/-- How often work was called, and how long it was waited in all. -/
structure Tally where
  calls : Nat
  waited : Duration
deriving DecidableEq

/-- The tally before the first call. -/
def Tally.start : Tally := ⟨0, .zero⟩

/-- Work whose calls come to one outcome of a stream after the other. -/
def replay (outcomes : Nat → Except StoreError α) : StateM Tally (Except StoreError α) :=
  fun t => (outcomes (t.calls + 1), { t with calls := t.calls + 1 })

/-- A wait that is added up. -/
def addUp (length : Duration) : StateM Tally Unit :=
  fun t => ((), { t with waited := t.waited + length })

/-- What the loop answers after its last call. -/
def verdict (label : String) (outcomes : Nat → Except StoreError α) (c : Nat) :
    Except StoreError α :=
  match outcomes c with
  | .error (.writeConflict _) => .error (exhausted label c)
  | outcome => outcome

/-- The delays before call `c`, one more from call to call. -/
def delays (c : Nat) : Nat := c * (c - 1) / 2

theorem times_add (a b : Nat) (d : Duration) : d.times (a + b) = d.times a + d.times b := by
  simp only [Duration.times, Nat.add_mul]
  rfl

theorem delays_succ (c : Nat) : delays (c + 1) = delays c + c := Nat.triangle_succ c

section Attempts

variable {policy : RetryPolicy} {label : String} {outcomes : Nat → Except StoreError α}
  {left attempt n : Nat} {waited : Duration}

theorem isConflict_iff {outcome : Except StoreError α} :
    IsConflict outcome ↔ ∃ detail, outcome = .error (.writeConflict detail) := by
  unfold IsConflict
  split
  · simp
  · next hother => simpa using hother

theorem verdict_of_settled (h : ¬ IsConflict (outcomes n)) :
    verdict label outcomes n = outcomes n := by
  unfold verdict
  split
  · next detail hconflict => exact absurd (isConflict_iff.mpr ⟨detail, hconflict⟩) h
  · rfl

theorem verdict_of_conflict (h : IsConflict (outcomes n)) :
    verdict label outcomes n = .error (exhausted label n) := by
  obtain ⟨detail, hconflict⟩ := isConflict_iff.mp h
  simp [verdict, hconflict]

/-! ### one attempt -/

/-- What an attempt does with the outcome of its call. -/
theorem run_attempt (next : Except StoreError α → StateM Tally (Except StoreError α)) :
    (replay outcomes >>= next).run ⟨n, waited⟩ = (next (outcomes (n + 1))).run ⟨n + 1, waited⟩ :=
  rfl

/-- An outcome that is no conflict ends the loop. -/
theorem attemptFrom_of_settled (h : ¬ IsConflict (outcomes (n + 1))) :
    (policy.attemptFrom addUp label (replay outcomes) left attempt).run ⟨n, waited⟩ =
      (outcomes (n + 1), ⟨n + 1, waited⟩) := by
  unfold attemptFrom
  rw [run_attempt]
  split
  · next detail hconflict => exact absurd (isConflict_iff.mpr ⟨detail, hconflict⟩) h
  · rfl

/-- A conflict in the last attempt does, too. -/
theorem attemptFrom_zero_of_conflict (h : IsConflict (outcomes (n + 1))) :
    (policy.attemptFrom addUp label (replay outcomes) 0 attempt).run ⟨n, waited⟩ =
      (.error (exhausted label attempt), ⟨n + 1, waited⟩) := by
  obtain ⟨detail, hconflict⟩ := isConflict_iff.mp h
  unfold attemptFrom
  rw [run_attempt, hconflict]
  rfl

/-- Any other conflict leads to the next attempt, a delay later. -/
theorem attemptFrom_succ_of_conflict (h : IsConflict (outcomes (n + 1))) :
    (policy.attemptFrom addUp label (replay outcomes) (left + 1) attempt).run ⟨n, waited⟩ =
      (policy.attemptFrom addUp label (replay outcomes) left (attempt + 1)).run
        ⟨n + 1, waited + policy.backoff.times attempt⟩ := by
  obtain ⟨detail, hconflict⟩ := isConflict_iff.mp h
  conv_lhs => unfold attemptFrom
  rw [run_attempt, hconflict]
  by_cases hzero : policy.backoff = .zero
  · have hnone : waited + policy.backoff.times attempt = waited := by
      rw [hzero]
      rfl
    rw [hnone]
    simp [hzero]
  · simp only [hzero, ne_eq, not_false_eq_true, if_true]
    rfl

/-- **The loop of attempts**, begun after `n` calls. -/
theorem run_attemptFrom (policy : RetryPolicy) (label : String)
    (outcomes : Nat → Except StoreError α) (left n : Nat) :
    ∃ c, Stops (fun k => IsConflict (outcomes k)) n (n + 1 + left) c ∧
      (policy.attemptFrom addUp label (replay outcomes) left (n + 1)).run
          ⟨n, policy.backoff.times (delays (n + 1))⟩ =
        (verdict label outcomes c, ⟨c, policy.backoff.times (delays c)⟩) := by
  induction left generalizing n with
  | zero =>
      refine ⟨n + 1, stops_last, ?_⟩
      by_cases h : IsConflict (outcomes (n + 1))
      · rw [attemptFrom_zero_of_conflict h, verdict_of_conflict h]
      · rw [attemptFrom_of_settled h, verdict_of_settled h]
  | succ left ih =>
      by_cases h : IsConflict (outcomes (n + 1))
      · obtain ⟨c, hstops, hrun⟩ := ih (n + 1)
        refine ⟨c, .next h (by convert hstops using 1; omega), ?_⟩
        rw [attemptFrom_succ_of_conflict h, ← hrun, delays_succ (n + 1), times_add (delays (n + 1))]
      · refine ⟨n + 1, stops_here h (by omega), ?_⟩
        rw [attemptFrom_of_settled h, verdict_of_settled h]

end Attempts

/-! ## the law -/

/-- What work that is run again at most `m` times answers, and what it takes: told by the outcomes
of its calls, which are numbered from 1 on. -/
structure Retried (m : Nat) (backoff : Duration) (label : String)
    (outcomes : Nat → Except StoreError α) (answer : Except StoreError α) (t : Tally) : Prop where
  /-- The first outcome that is no conflict is the answer, if it comes in time. -/
  settled : ∀ c, 0 < c → c ≤ m → ¬ IsConflict (outcomes c) →
    (∀ k, 0 < k → k < c → IsConflict (outcomes k)) → t.calls = c ∧ answer = outcomes c
  /-- If all outcomes are conflicts, the work is given up after the last attempt. -/
  exhausted : (∀ k, 0 < k → k ≤ m → IsConflict (outcomes k)) →
    t.calls = m ∧
      answer = .error (.constraintViolation (label ++ s!" kept conflicting after {m} attempts"))
  noConflict : ¬ IsConflict answer
  /-- One delay is waited after the first call, two after the second, and none after the last. -/
  waited : t.waited = backoff.times (t.calls * (t.calls - 1) / 2)

theorem not_isConflict_verdict (label : String) (outcomes : Nat → Except StoreError α) (c : Nat) :
    ¬ IsConflict (verdict label outcomes c) := by
  by_cases h : IsConflict (outcomes c)
  · rw [verdict_of_conflict h]
    exact id
  · rwa [verdict_of_settled h]

theorem retried_run (policy : RetryPolicy) (label : String)
    (outcomes : Nat → Except StoreError α) :
    Retried (max 1 policy.maxAttempts) policy.backoff label outcomes
      ((policy.retry addUp label (replay outcomes)).run .start).1
      ((policy.retry addUp label (replay outcomes)).run .start).2 := by
  obtain ⟨c, hstops, hrun⟩ :=
    run_attemptFrom policy label outcomes (policy.maxAttempts - 1) 0
  have hstart : (⟨0, policy.backoff.times (delays 1)⟩ : Tally) = .start := by
    simp [delays, Duration.times, Tally.start, Duration.zero]
  have hm : 0 + 1 + (policy.maxAttempts - 1) = max 1 policy.maxAttempts := by omega
  rw [hstart] at hrun
  rw [hm] at hstops
  rw [retry, hrun]
  refine
    { settled := ?_, exhausted := ?_, noConflict := not_isConflict_verdict label outcomes c
      waited := rfl }
  · intro j hj hle hsettled hfirst
    obtain rfl := hstops.eq_of_first hj hle hsettled hfirst
    exact ⟨rfl, verdict_of_settled hsettled⟩
  · intro hall
    obtain rfl := hstops.eq_of_forall hall
    exact ⟨rfl, verdict_of_conflict (hall _ hstops.lt hstops.le)⟩

/-- **Work is run again exactly as long as it conflicts and attempts are left**, for any number of
attempts that is asked for, of which there is at least one, and any delay. -/
theorem retry_settles (attempts : Nat) (backoff : Duration)
    (outcomes : Nat → Except StoreError α) :
    let policy : RetryPolicy := { ofAttempts attempts with backoff }
    (∀ label : String,
      Retried (max 1 attempts) backoff label outcomes
        ((policy.retry addUp label (replay outcomes)).run .start).1
        ((policy.retry addUp label (replay outcomes)).run .start).2) ∧
    ∀ scope : Scope,
      Retried (max 1 attempts) backoff ("number allocation for " ++ scope.name) outcomes
        ((policy.allocate addUp scope (replay outcomes)).run .start).1
        ((policy.allocate addUp scope (replay outcomes)).run .start).2 := by
  intro policy
  have hm : max 1 policy.maxAttempts = max 1 attempts := by
    show max 1 (max attempts 1) = max 1 attempts
    omega
  have hretried := fun label => hm ▸ retried_run policy label outcomes
  exact ⟨hretried, fun scope => hretried _⟩

end RetryPolicy

end ChatService.Store
