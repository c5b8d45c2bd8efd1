import ChatService.Time.Calendar
import ChatService.Word

/-!
# Timestamps

Moments in universal time with nanoseconds, over the years -262143 to 262142. The second count of a
timestamp knows no leap seconds; a moment inside one is written with a second of nanoseconds more.
-/

namespace ChatService

/-- A moment: seconds since 1970-01-01T00:00:00Z, and nanoseconds of that second. A nanosecond count
    of a second or more lies in the leap second that follows. -/
structure Timestamp where
  seconds : Int
  nanos : Nat
deriving DecidableEq, Repr, Inhabited

namespace Timestamp

/-- The beginning of 1970. -/
def epoch : Timestamp := ⟨0, 0⟩

/-- The first second of the first year. -/
def minSeconds : Int := (⟨Date.minYear, 1, 1⟩ : Date).toDays * 86400

/-- The last second of the last year. -/
def maxSeconds : Int := (⟨Date.maxYear, 12, 31⟩ : Date).toDays * 86400 + 86399

/-- Moments that can be written: in range, and with a leap second only at the end of a minute. -/
def IsValid (t : Timestamp) : Prop :=
  minSeconds ≤ t.seconds ∧ t.seconds ≤ maxSeconds ∧
    (t.nanos < 1000000000 ∨ t.nanos < 2000000000 ∧ t.seconds % 60 = 59)

instance (t : Timestamp) : Decidable t.IsValid := by unfold IsValid; infer_instance

/-- Earlier or equal. -/
def le (a b : Timestamp) : Bool :=
  decide (a.seconds < b.seconds) || (a.seconds == b.seconds && decide (a.nanos ≤ b.nanos))

/-- Whole milliseconds since 1970, rounded down. -/
def millis (t : Timestamp) : Int := t.seconds * 1000 + t.nanos / 1000000

/-- The moment some milliseconds after the beginning of 1970, if the calendar reaches it. -/
def ofMillis? (ms : Int) : Option Timestamp :=
  let t : Timestamp := ⟨ms / 1000, (ms % 1000).toNat * 1000000⟩
  if minSeconds ≤ t.seconds ∧ t.seconds ≤ maxSeconds then some t else none

end Timestamp

end ChatService
