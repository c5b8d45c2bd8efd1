import ChatService.Text.Cut
import ChatService.Text.Percent

/-!
# Where requests are sent

The path and query of an address as a server receives them. Segments `.` and `..` are resolved,
characters that may not stand in an address are percent-encoded, and what follows a `#` is not sent.
A `?` ends the path wherever it comes from.
-/

namespace ChatService.Search.Address

/-- Control characters, and all beyond the first 128. -/
def isControl (c : Char) : Bool := decide (c.toNat < 0x20) || decide (0x7E < c.toNat)

/-- Characters that are encoded in a path. -/
def reservedInPath (c : Char) : Bool := isControl c || " \"<>`#?\x7b\x7d".toList.contains c

/-- Characters that are encoded in a query. -/
def reservedInQuery (c : Char) : Bool := isControl c || " \"#<>'".toList.contains c

/-- A segment with encoded dots written as dots, to be compared. -/
def plainDots : List Char → List Char
  | '%' :: '2' :: 'e' :: rest => '.' :: plainDots rest
  | '%' :: '2' :: 'E' :: rest => '.' :: plainDots rest
  | c :: rest => c :: plainDots rest
  | [] => []

/-- Appends segments to those in front of them, last first: `..` takes one away, and at the end a
    dot segment leaves an empty one. -/
def resolve : List (List Char) → List (List Char) → List (List Char)
  | done, [] => done
  | done, segment :: rest =>
    let here := if rest.isEmpty then [[]] else []
    if plainDots segment = ['.', '.'] then resolve (here ++ done.drop 1) rest
    else if plainDots segment = ['.'] then resolve (here ++ done) rest
    else resolve (Text.percentEncode reservedInPath segment :: done) rest

/-- The path that is sent: it begins with a slash even when nothing is written. -/
def path (cs : List Char) : List Char :=
  let cs := cs.map fun c => if c = '\\' then '/' else c
  let cs := if cs.head? = some '/' then cs.drop 1 else cs
  (resolve [] (Text.splitAt '/' cs)).reverse.flatMap ('/' :: ·)

/-- What is sent of an address, seen from behind its host. -/
def target (cs : List Char) : String :=
  let cs := cs.filter fun c => c ≠ '\t' && c ≠ '\n' && c ≠ '\r'
  let cs := (cs.reverse.dropWhile fun c => decide (c.toNat ≤ 0x20)).reverse
  let (cs, _) := Text.cut '#' cs
  let (before, query) := Text.cut '?' cs
  String.ofList <|
    path before ++ (query.map fun q => '?' :: Text.percentEncode reservedInQuery q).getD []

example : target "/messages/_doc/tok:1:2".toList = "/messages/_doc/tok:1:2" := by decide
example : target "/a/./b/../c d?q#f".toList = "/a/c%20d?q" := by decide
example : target "".toList = "/" := by decide

end ChatService.Search.Address
