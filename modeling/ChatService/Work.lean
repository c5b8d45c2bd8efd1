import ChatService.Call
import ChatService.Time.Duration

/-!
# Work that takes time

Work on a state looks at the clock, acts on the state at once, or waits. It may wait for ever, and
it may stop the whole program when it needs a moment that the clock cannot show. `bounded` gives
up on work that takes too long: what it did until then stays done, what it had not reached is
never done.
-/

namespace ChatService

variable {σ τ α β : Type}

/-- Work on a state `σ` that ends with an answer `α`. -/
inductive Work (σ α : Type) : Type where
  | done (answer : α)
  /-- A change of the state at one moment, and the work after it, seen from the state found. -/
  | act (effect : Instant → σ → σ) (next : Instant → σ → Work σ α)
  | wait (length : Duration) (next : Work σ α)
  | never
  | stop

namespace Work

/-- Goes on with other work after an answer. -/
def bind (f : α → Work σ β) : Work σ α → Work σ β
  | .done a => f a
  | .act effect next => .act effect fun i s => bind f (next i s)
  | .wait length next => .wait length (bind f next)
  | .never => .never
  | .stop => .stop

instance : Monad (Work σ) where
  pure := .done
  bind work f := work.bind f

/-- Changes the state and answers, at once. -/
def now (body : Instant → σ → σ × α) : Work σ α :=
  .act (fun i s => (body i s).1) fun i s => .done (body i s).2

/-- The reading of the clock. -/
def clock : Work σ Instant := .act (fun _ s => s) fun i _ => .done i

/-- Work of a state that changes by itself at no cost of time. -/
def ofState (body : StateM σ α) : Work σ α :=
  now fun _ s => let (a, s) := body.run s; (s, a)

/-- A call in sections as work: sections take no time. -/
def ofCall {κ : Type} : Call σ Instant κ α → Work σ α
  | .done a => .done a
  | .step _ effect next => .act effect fun i s => ofCall (next i s)

/-- Work on a part of a larger state. -/
def onPart (part : σ → τ) (replace : τ → σ → σ) : Work τ α → Work σ α
  | .done a => .done a
  | .act effect next =>
    .act (fun i s => replace (effect i (part s)) s) fun i s => onPart part replace (next i (part s))
  | .wait length next => .wait length (onPart part replace next)
  | .never => .never
  | .stop => .stop

/-- The answer of work that takes no longer than `limit`; none after exactly that time otherwise. -/
def bounded (limit : Duration) : Work σ α → Work σ (Option α)
  | .done a => .done (some a)
  | .act effect next => .act effect fun i s => bounded limit (next i s)
  | .wait length next =>
    if length ≤ limit then .wait length (bounded ⟨limit.nanos - length.nanos⟩ next)
    else .wait limit (.done none)
  | .never => .wait limit (.done none)
  | .stop => .stop

/-- The answer of work that ends before `limit` is over, as long as there is time left at all; none
    after exactly that time otherwise. -/
def before (limit : Duration) : Work σ α → Work σ (Option α)
  | .done a => if limit = .zero then .done none else .done (some a)
  | .act effect next =>
    if limit = .zero then .done none else .act effect fun i s => before limit (next i s)
  | .wait length next =>
    if length ≤ limit then .wait length (before ⟨limit.nanos - length.nanos⟩ next)
    else .wait limit (.done none)
  | .never => .wait limit (.done none)
  | .stop => if limit = .zero then .done none else .stop

/-- How work ends: with an answer at a moment, not at all, or by stopping the program. -/
inductive Ending (σ α : Type) : Type where
  | answered (moment : Instant) (state : σ) (answer : α)
  | never
  | stopped
deriving Repr

/-- Runs work from a moment on. -/
def run : Work σ α → Instant → σ → Ending σ α
  | .done a, i, s => .answered i s a
  | .act effect next, i, s => run (next i s) i (effect i s)
  | .wait length next, i, s => run next (i.after length) s
  | .never, _, _ => .never
  | .stop, _, _ => .stopped

theorem run_bind (work : Work σ α) (f : α → Work σ β) (i : Instant) (s : σ) :
    (work.bind f).run i s =
      match work.run i s with
      | .answered i s a => (f a).run i s
      | .never => .never
      | .stopped => .stopped := by
  induction work generalizing i s with
  | done a => rfl
  | act effect next ih => exact ih i s i (effect i s)
  | wait length next ih => exact ih (i.after length) s
  | never => rfl
  | stop => rfl

end Work

end ChatService
