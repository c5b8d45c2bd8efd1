import ChatService.Json.Printer

/-!
# Durations

Lengths of time in whole nanoseconds: timeouts, retry delays and lifetimes of cache entries.
-/

namespace ChatService

/-- A length of time. -/
structure Duration where
  nanos : Nat
deriving DecidableEq, Repr, Inhabited

namespace Duration

def zero : Duration := ⟨0⟩

def ofMillis (n : Nat) : Duration := ⟨n * 1000000⟩

def ofSecs (n : Nat) : Duration := ⟨n * 1000000000⟩

/-- Whole milliseconds, the rest dropped. -/
def millis (d : Duration) : Nat := d.nanos / 1000000

instance : Add Duration := ⟨fun a b => ⟨a.nanos + b.nanos⟩⟩

instance : LE Duration := ⟨fun a b => a.nanos ≤ b.nanos⟩

instance (a b : Duration) : Decidable (a ≤ b) := inferInstanceAs (Decidable (a.nanos ≤ b.nanos))

/-- Some number of equal lengths after one another. -/
def times (n : Nat) (d : Duration) : Duration := ⟨n * d.nanos⟩

/-- The `width` lowest decimal digits of a number, highest first. -/
def placesChars : Nat → Nat → List Char
  | 0, _ => []
  | width + 1, n => placesChars width (n / 10) ++ Nat.toDigits 10 (n % 10)

/-- Decimal places without the zeros at their end. -/
def trimZeros (cs : List Char) : List Char := (cs.reverse.dropWhile (· = '0')).reverse

/-- A number of units with a fraction, where `10 ^ width` parts make a unit. -/
def decimalChars (width n : Nat) : List Char :=
  let places := trimZeros (placesChars width (n % Nat.pow 10 width))
  Json.natChars (n / Nat.pow 10 width) ++ (if places.isEmpty then [] else '.' :: places)

/-- The length in the largest of the units s, ms, µs and ns of which it holds at least one. -/
def render (d : Duration) : String :=
  String.ofList <|
    if 1000000000 ≤ d.nanos then decimalChars 9 d.nanos ++ ['s']
    else if 1000000 ≤ d.nanos then decimalChars 6 d.nanos ++ ['m', 's']
    else if 1000 ≤ d.nanos then decimalChars 3 d.nanos ++ ['µ', 's']
    else decimalChars 0 d.nanos ++ ['n', 's']

example : (ofMillis 250).render = "250ms" := by decide
example : (⟨1000500000⟩ : Duration).render = "1.0005s" := by decide
example : (⟨1500⟩ : Duration).render = "1.5µs" := by decide
example : zero.render = "0ns" := by decide

end Duration

/-- A reading of the clock that measures lifetimes: the time since some fixed moment. -/
structure Instant where
  nanos : Nat
deriving DecidableEq, Repr, Inhabited

namespace Instant

instance : LE Instant := ⟨fun a b => a.nanos ≤ b.nanos⟩

instance (a b : Instant) : Decidable (a ≤ b) := inferInstanceAs (Decidable (a.nanos ≤ b.nanos))

instance : LT Instant := ⟨fun a b => a.nanos < b.nanos⟩

instance (a b : Instant) : Decidable (a < b) := inferInstanceAs (Decidable (a.nanos < b.nanos))

/-- The moment a length of time later. -/
def after (i : Instant) (d : Duration) : Instant := ⟨i.nanos + d.nanos⟩

/-- The first moment that the clock cannot show: it counts seconds in signed 64-bit numbers. -/
def limit : Instant := ⟨9223372036854775808 * 1000000000⟩

/-- The moment a length of time later, if the clock can show it. -/
def after? (i : Instant) (d : Duration) : Option Instant :=
  if i.after d < limit then some (i.after d) else none

/-- The time from an earlier moment. -/
def since (i j : Instant) : Duration := ⟨i.nanos - j.nanos⟩

end Instant

end ChatService
