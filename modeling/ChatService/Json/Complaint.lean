import ChatService.Json.Reading

/-!
# What is wrong with a text

A complaint about a text, with the place at which it arose. A complaint that is itself given as a
text has its place at the end, and there it is read off.
-/

namespace ChatService.Json

/-- A complaint about the character at a column of a line; line 0 means that the place is unknown.
    Both numbers have 64 bits. -/
structure Complaint where
  detail : String
  line : Nat
  column : Nat
deriving DecidableEq, Repr

namespace Complaint

/-- The number of 64 bits that a text ends with, and what stands before it; both texts are given
    last character first. -/
def numberAtEnd? (reversed : List Char) : Option (Nat × List Char) :=
  match reversed.takeWhile Char.isDigit with
  | [] => none
  | digits =>
    let n := Text.digitsValue digits.reverse
    if n ≤ 18446744073709551615 then some (n, reversed.dropWhile Char.isDigit) else none

/-- Reads a place off the end of a text that is given last character first. -/
def ofReversed? (reversed : List Char) : Option Complaint := do
  let (column, reversed) ← numberAtEnd? reversed
  let reversed ← dropWord? " column ".toList.reverse reversed
  let (line, reversed) ← numberAtEnd? reversed
  let reversed ← dropWord? " at line ".toList.reverse reversed
  pure ⟨String.ofList reversed.reverse, line, column⟩

/-- The complaint that a text states, with its place if one is written at the end. -/
def ofText (s : String) : Complaint := (ofReversed? s.toList.reverse).getD ⟨s, 0, 0⟩

/-- The wording of a complaint. -/
def message (c : Complaint) : String :=
  if c.line = 0 then c.detail else s!"{c.detail} at line {c.line} column {c.column}"

end Complaint

end ChatService.Json
