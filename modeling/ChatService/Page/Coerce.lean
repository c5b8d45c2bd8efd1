import ChatService.Text.Blank
import ChatService.Text.Number
import ChatService.Word

/-!
# Lenient numbers

Page numbers and sizes arrive as text that anyone may have typed. Reading them never fails: white
space in front is skipped, one sign is read, then as many digits as there are, and whatever follows
is ignored. Text without digits counts as 0, and a number that is too large as the largest one.
-/

namespace ChatService.Page

open Word

/-- One digit more at the end of a number, stopping at the largest signed 64-bit number. -/
def appendDigit (value : Int) (c : Char) : Int :=
  min (min (value * 10) maxInt64 + Text.digitValue c) maxInt64

/-- The number that the leading digits of a text spell. -/
def leadingNumber (cs : List Char) : Int := (cs.takeWhile Char.isDigit).foldl appendDigit 0

/-- The number that a text starts with. -/
def coerceInt (raw : String) : Int :=
  match Text.trimStart raw.toList with
  | '-' :: rest => -leadingNumber rest
  | '+' :: rest => leadingNumber rest
  | cs => leadingNumber cs

end ChatService.Page
