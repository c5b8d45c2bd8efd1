import ChatService.Store.Counter
import ChatService.Time.Duration

/-!
# Running work again

Work that ran into a write conflict is run again, with a growing delay, until it ends in another way
or the attempts are used up.
-/

namespace ChatService.Store

/-- How often work is run and how long to wait in between. -/
structure RetryPolicy where
  maxAttempts : Nat
  /-- The delay after attempt `n` is `n` times as long. -/
  backoff : Duration
deriving DecidableEq, Repr

namespace RetryPolicy

/-- The usual number of attempts. -/
def defaultMaxAttempts : Nat := 5

/-- The usual delay. -/
def defaultBackoff : Duration := .ofMillis 10

/-- At least one attempt, with the usual delay. -/
def ofAttempts (n : Nat) : RetryPolicy := ⟨max n 1, defaultBackoff⟩

/-- The error that stands for a conflict in the last attempt. -/
def exhausted (label : String) (attempts : Nat) : StoreError :=
  .constraintViolation (label ++ s!" kept conflicting after {attempts} attempts")

section Retry

universe u

variable {m : Type → Type u} [Monad m] {α : Type}

/-- Runs work as attempt number `attempt`, with `left` more attempts behind it. -/
def attemptFrom (policy : RetryPolicy) (wait : Duration → m Unit) (label : String)
    (work : m (Except StoreError α)) : Nat → Nat → m (Except StoreError α)
  | left, attempt => do
    match ← work with
    | .error (.writeConflict _) =>
      match left with
      | 0 => pure (.error (exhausted label attempt))
      | left + 1 =>
        if policy.backoff ≠ .zero then wait (policy.backoff.times attempt)
        attemptFrom policy wait label work left (attempt + 1)
    | result => pure result

/-- Runs work until it ends without a write conflict; a conflict in the last attempt becomes a
    constraint violation that names the work. -/
def retry (policy : RetryPolicy) (wait : Duration → m Unit) (label : String)
    (work : m (Except StoreError α)) : m (Except StoreError α) :=
  attemptFrom policy wait label work (policy.maxAttempts - 1) 1

/-- Runs work that hands out a number. -/
def allocate (policy : RetryPolicy) (wait : Duration → m Unit) (scope : Scope)
    (work : m (Except StoreError α)) : m (Except StoreError α) :=
  policy.retry wait ("number allocation for " ++ scope.name) work

end Retry

end RetryPolicy

end ChatService.Store
