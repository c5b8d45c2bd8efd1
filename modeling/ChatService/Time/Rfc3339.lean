import ChatService.Json.Printer
import ChatService.Text.Blank
import ChatService.Text.Number
import ChatService.Time.Duration
import ChatService.Time.Timestamp

/-!
# Timestamps as text

Timestamps are written in RFC 3339 form in universal time, with no fraction, or with 3, 6 or 9
places, whichever is the first to be exact. Years outside 0 to 9999 have a sign and at least four
digits.

Reading is more lenient: numbers need not be padded, white space may stand before them, a blank
may replace the `T`, any offset may be given, and nanoseconds are cut after nine places.
-/

namespace ChatService.Timestamp

/-! ## Writing -/

/-- A year: four digits, after a sign outside 0 to 9999. -/
def yearChars (year : Int) : List Char :=
  if 0 ≤ year ∧ year ≤ 9999 then Duration.placesChars 4 year.toNat
  else
    let digits := Json.natChars year.natAbs
    (if year < 0 then '-' else '+') :: (List.replicate (4 - digits.length) '0' ++ digits)

/-- A fraction of a second in nanoseconds. -/
def fractionChars (nanos : Nat) : List Char :=
  if nanos = 0 then []
  else if nanos % 1000000 = 0 then '.' :: Duration.placesChars 3 (nanos / 1000000)
  else if nanos % 1000 = 0 then '.' :: Duration.placesChars 6 (nanos / 1000)
  else '.' :: Duration.placesChars 9 nanos

/-- The text of a timestamp. The leap second is written as the sixtieth second. -/
def chars (t : Timestamp) : List Char :=
  let date := Date.ofDays (t.seconds / 86400)
  let second := (t.seconds % 86400).toNat
  let leap := t.nanos / 1000000000
  yearChars date.year ++ '-' :: Duration.placesChars 2 date.month ++
    '-' :: Duration.placesChars 2 date.day ++
    'T' :: Duration.placesChars 2 (second / 3600) ++
    ':' :: Duration.placesChars 2 (second / 60 % 60) ++
    ':' :: Duration.placesChars 2 (second % 60 + leap) ++
    fractionChars (t.nanos % 1000000000) ++ ['Z']

/-- The text of a timestamp. -/
def render (t : Timestamp) : String := String.ofList t.chars

/-! ## Reading -/

/-- Reads at least one digit and at most `width`. -/
def readDigits? (width : Nat) (cs : List Char) : Option (Nat × List Char) :=
  match (cs.take width).takeWhile Char.isDigit with
  | [] => none
  | digits => some (Text.digitsValue digits, cs.drop digits.length)

/-- Reads a number of at most two digits behind white space. -/
def readTwo? (cs : List Char) : Option (Nat × List Char) := readDigits? 2 (Text.trimStart cs)

/-- Reads a year behind white space: up to four digits, or a sign and any number of digits. -/
def readYear? (cs : List Char) : Option (Int × List Char) :=
  match Text.trimStart cs with
  | '-' :: rest => (readDigits? rest.length rest).map fun (n, rest) => (-(n : Int), rest)
  | '+' :: rest => (readDigits? rest.length rest).map fun (n, rest) => ((n : Int), rest)
  | rest => (readDigits? 4 rest).map fun (n, rest) => ((n : Int), rest)

/-- Reads a mark behind white space. -/
def readMark? (mark : Char) (cs : List Char) : Option (List Char) :=
  match Text.trimStart cs with
  | c :: rest => if c = mark then some rest else none
  | [] => none

/-- Reads a fraction of a second, if there is one, in nanoseconds. -/
def readFraction? : List Char → Option (Nat × List Char)
  | '.' :: rest =>
    (readDigits? 9 rest).map fun (n, after) =>
      (n * Nat.pow 10 (9 - (rest.length - after.length)), after.dropWhile Char.isDigit)
  | rest => some (0, rest)

/-- Reads two digits that follow at once. -/
def readPair? : List Char → Option (Nat × List Char)
  | a :: b :: rest => if a.isDigit && b.isDigit then some (Text.digitsValue [a, b], rest) else none
  | _ => none

/-- Reads hours and minutes of an offset, in seconds. -/
def readHoursMinutes? (cs : List Char) : Option (Nat × List Char) := do
  let (hours, rest) ← readPair? cs
  let (minutes, rest) ← readPair? (rest.dropWhile fun c => c = ':' || Text.isBlankChar c)
  if minutes < 60 then some (hours * 3600 + minutes * 60, rest) else none

/-- Reads the offset from universal time behind white space, in seconds: `Z`, `UTC` in any case, or
    a sign with hours and minutes; the sign may be the minus sign proper. -/
def readOffset? (cs : List Char) : Option (Int × List Char) :=
  let signed (negative : Bool) (rest : List Char) : Option (Int × List Char) :=
    (readHoursMinutes? rest).map fun (n, rest) => (if negative then -(n : Int) else n, rest)
  match Text.trimStart cs with
  | u :: t :: c :: rest =>
    if u.toLower = 'u' && t.toLower = 't' && c.toLower = 'c' then some (0, rest)
    else if u = 'Z' || u = 'z' then some (0, t :: c :: rest)
    else if u = '+' then signed false (t :: c :: rest)
    else if u = '-' || u = '−' then signed true (t :: c :: rest)
    else none
  | 'Z' :: rest => some (0, rest)
  | 'z' :: rest => some (0, rest)
  | _ => none

/-- The moment of a date and a time of day at an offset, if both exist and universal time is in
    range. The sixtieth second is the leap second after the fifty-ninth. -/
def ofParts? (date : Date) (hour minute second nanos : Nat) (offset : Int) : Option Timestamp :=
  if date.IsValid ∧ hour < 24 ∧ minute < 60 ∧ second ≤ 60 ∧ -86400 < offset ∧ offset < 86400 then
    let leap := second / 60
    let wall : Int := date.toDays * 86400 + (hour * 3600 + minute * 60 + (second - leap) : Nat)
    let t : Timestamp := ⟨wall - offset, nanos + leap * 1000000000⟩
    if minSeconds ≤ t.seconds ∧ t.seconds ≤ maxSeconds then some t else none
  else none

/-- Reads a timestamp that fills the text. -/
def parseChars? (cs : List Char) : Option Timestamp := do
  let (year, rest) ← readYear? cs
  let rest ← readMark? '-' rest
  let (month, rest) ← readTwo? rest
  let rest ← readMark? '-' rest
  let (day, rest) ← readTwo? rest
  let rest ←
    match rest with
    | c :: rest => if c = 'T' || c = 't' || c = ' ' then some rest else none
    | [] => none
  let (hour, rest) ← readTwo? rest
  let rest ← readMark? ':' rest
  let (minute, rest) ← readTwo? rest
  let rest ← readMark? ':' rest
  let (second, rest) ← readTwo? rest
  let (nanos, rest) ← readFraction? rest
  let (offset, rest) ← readOffset? rest
  if (Text.trimStart rest).isEmpty then ofParts? ⟨year, month, day⟩ hour minute second nanos offset
  else none

/-- Reads a timestamp. -/
def parse? (s : String) : Option Timestamp := parseChars? s.toList

example : (⟨0, 0⟩ : Timestamp).render = "1970-01-01T00:00:00Z" := by decide +kernel
example : parse? "2024-05-01T10:00:00.1+02:00" = some ⟨1714550400, 100000000⟩ := by decide +kernel
example : (parse? "10000-01-01T00:00:00Z").isNone := by decide +kernel

end ChatService.Timestamp
