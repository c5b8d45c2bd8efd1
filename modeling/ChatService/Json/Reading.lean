import ChatService.Json.Printer
import ChatService.Text.Number

/-!
# Reading JSON text

Text is read from left to right into a tree that may be unfinished: where the text stops being JSON
the tree has a break, and nothing after it is known. A decoder that walks the tree in the order of
the text therefore meets a value of the wrong shape and a break in the order in which they occur.

Two kinds of leaves have a form and no value: a text with an escape that names half of a surrogate
pair, and a number too large for a double. They do no harm where a value is skipped.
-/

namespace ChatService.Json

/-- A value as far as its text could be read. -/
inductive Reading where
  | null
  | bool (b : Bool)
  /-- `none`: the number is too large. -/
  | number (n : Option Number)
  /-- `none`: an escape names half of a surrogate pair. -/
  | text (s : Option String)
  | list (items : List Reading)
  /-- A key is `none` when it cannot be read. -/
  | object (fields : List (Option String × Reading))
  /-- Here the text stops being JSON. -/
  | broken
deriving Repr, Inhabited

/-- White space between tokens. -/
def isSpace (c : Char) : Bool := c = ' ' || c = '\n' || c = '\r' || c = '\t'

def skipSpace (cs : List Char) : List Char := cs.dropWhile isSpace

/-! ## Numbers

The digits of a number are collected into a whole number of 64 bits. Once a digit does not fit, it
and the digits that follow it on the same side of the point are dropped, and those in front of the
point count as places.
-/

/-- Adds digits to a number as long as 64 bits hold it; the second part are the digits that are
    dropped. -/
def collect (n : Nat) : List Char → Nat × List Char
  | [] => (n, [])
  | c :: cs =>
    let next := n * 10 + Text.digitValue c
    if next ≤ 18446744073709551615 then collect next cs else (n, c :: cs)

/-- A number with a fraction or an exponent; `none`: it is too large. -/
def fractionNumber (negative : Bool) (digits places : List Char) (exponent : Int) : Option Number :=
  let (whole, dropped) := collect 0 digits
  let (n, unused) := collect whole places
  let exponent := exponent + dropped.length - (places.length - unused.length : Nat)
  (Double.ofScientific? negative n exponent).map .double

/-- A number without fraction and exponent is an integer when 64 bits hold it with its sign. -/
def wholeNumber (negative : Bool) (digits : List Char) : Option Number :=
  let n := Text.digitsValue digits
  if negative then
    if n = 0 ∨ 9223372036854775808 < n then fractionNumber true digits [] 0
    else some (.integer (-n))
  else if 18446744073709551615 < n then fractionNumber false digits [] 0
  else some (.integer n)

/-- Reads the exponent of a number whose other digits have been read; `none`: it has no digits. -/
def readExponent (negative : Bool) (digits places : List Char) (cs : List Char) :
    Option (Option Number × List Char) :=
  let (minus, cs) :=
    match cs with
    | '+' :: rest => (false, rest)
    | '-' :: rest => (true, rest)
    | cs => (false, cs)
  match cs.takeWhile Char.isDigit with
  | [] => none
  | ds =>
    let exponent : Int := if minus then -(Text.digitsValue ds) else Text.digitsValue ds
    some (fractionNumber negative digits places exponent, cs.dropWhile Char.isDigit)

/-- Reads what follows the whole part of a number. -/
def readFraction (negative : Bool) (digits : List Char) (cs : List Char) :
    Option (Option Number × List Char) :=
  match cs with
  | '.' :: cs =>
    match cs.takeWhile Char.isDigit, cs.dropWhile Char.isDigit with
    | [], _ => none
    | places, 'e' :: rest => readExponent negative digits places rest
    | places, 'E' :: rest => readExponent negative digits places rest
    | places, rest => some (fractionNumber negative digits places 0, rest)
  | 'e' :: rest => readExponent negative digits [] rest
  | 'E' :: rest => readExponent negative digits [] rest
  | rest => some (wholeNumber negative digits, rest)

/-- Reads a number behind its sign. A zero is followed by no other digit. -/
def readUnsigned (negative : Bool) (cs : List Char) : Option (Option Number × List Char) :=
  match cs.takeWhile Char.isDigit with
  | [] => none
  | '0' :: _ :: _ => none
  | digits => readFraction negative digits (cs.dropWhile Char.isDigit)

/-- Reads a number. -/
def readNumber : List Char → Option (Option Number × List Char)
  | '-' :: rest => readUnsigned true rest
  | cs => readUnsigned false cs

/-! ## Texts -/

/-- The character that a one-letter escape stands for. -/
def unescape? : Char → Option Char
  | '"' => some '"'
  | '\\' => some '\\'
  | '/' => some '/'
  | 'b' => some '\x08'
  | 'f' => some '\x0c'
  | 'n' => some '\n'
  | 'r' => some '\r'
  | 't' => some '\t'
  | _ => none

/-- What a text can hold at one place: a character, or half of a surrogate pair. -/
inductive Unit16 where
  | char (c : Char)
  | lead (n : Nat)
  | trail (n : Nat)
deriving DecidableEq, Repr

/-- The unit that a four-digit escape names. -/
def Unit16.ofNat (n : Nat) : Unit16 :=
  if 0xD800 ≤ n ∧ n < 0xDC00 then .lead n
  else if 0xDC00 ≤ n ∧ n < 0xE000 then .trail n
  else .char (Char.ofNat n)

/-- Characters of a text, collected last first. Once half a pair has been met there is no text. -/
structure Collected where
  chars : List Char := []
  /-- The first half of a pair whose second half has to follow at once. -/
  pending : Option Nat := none
  readable : Bool := true
deriving Repr

namespace Collected

/-- Adds a character that is written as itself or by a one-letter escape. -/
def addChar (t : Collected) (c : Char) : Collected :=
  { chars := c :: t.chars, pending := none, readable := t.readable && t.pending.isNone }

/-- Adds what a four-digit escape names. -/
def addUnit (t : Collected) : Unit16 → Collected
  | .char c => t.addChar c
  | .lead n => { t with pending := some n, readable := t.readable && t.pending.isNone }
  | .trail n =>
    match t.pending with
    | some lead =>
      { t with
        chars := Char.ofNat (0x10000 + (lead - 0xD800) * 0x400 + (n - 0xDC00)) :: t.chars
        pending := none }
    | none => { t with readable := false }

/-- The collected text. -/
def text? (t : Collected) : Option String :=
  if t.readable && t.pending.isNone then some (String.ofList t.chars.reverse) else none

end Collected

/-- Reads a text behind its opening quote. -/
def readText (t : Collected) : List Char → Option (Option String × List Char)
  | [] => none
  | '"' :: rest => some (t.text?, rest)
  | '\\' :: 'u' :: a :: b :: c :: d :: rest =>
    match Text.hexNumber? [a, b, c, d] with
    | some n => readText (t.addUnit (.ofNat n)) rest
    | none => none
  | '\\' :: e :: rest =>
    match unescape? e with
    | some c => readText (t.addChar c) rest
    | none => none
  | c :: rest => if c.toNat < 0x20 ∨ c = '\\' then none else readText (t.addChar c) rest

/-! ## Values -/

/-- Drops a word from the front of a text that starts with it. -/
def dropWord? : List Char → List Char → Option (List Char)
  | [], cs => some cs
  | w :: ws, c :: cs => if w = c then dropWord? ws cs else none
  | _ :: _, [] => none

/-- Reads one of the words `null`, `true` and `false` behind its first letter. -/
def readWord (word : List Char) (value : Reading) (cs : List Char) : Reading × Option (List Char) :=
  match dropWord? word cs with
  | some rest => (value, some rest)
  | none => (.broken, none)

mutual

/-- Reads one value; the second part is the text behind it, or `none` behind a break. The first
    argument bounds the nesting of the calls: two for a bracket, one for an item, so it never runs
    out when it is larger than twice the length of the text. -/
def readValue : Nat → List Char → Reading × Option (List Char)
  | 0, _ => (.broken, none)
  | fuel + 1, cs =>
    match skipSpace cs with
    | 'n' :: rest => readWord ['u', 'l', 'l'] .null rest
    | 't' :: rest => readWord ['r', 'u', 'e'] (.bool true) rest
    | 'f' :: rest => readWord ['a', 'l', 's', 'e'] (.bool false) rest
    | '"' :: rest =>
      match readText {} rest with
      | some (s, rest) => (.text s, some rest)
      | none => (.broken, none)
    | '[' :: rest =>
      match skipSpace rest with
      | ']' :: rest => (.list [], some rest)
      | rest =>
        let (items, rest) := readItems fuel rest
        (.list items, rest)
    | '{' :: rest =>
      match skipSpace rest with
      | '}' :: rest => (.object [], some rest)
      | rest =>
        let (fields, rest) := readFields fuel rest
        (.object fields, rest)
    | rest =>
      match readNumber rest with
      | some (n, rest) => (.number n, some rest)
      | none => (.broken, none)

/-- Reads the items of a list that is not empty, behind its bracket or a comma. -/
def readItems : Nat → List Char → List Reading × Option (List Char)
  | 0, _ => ([.broken], none)
  | fuel + 1, cs =>
    match readValue fuel cs with
    | (item, none) => ([item], none)
    | (item, some rest) =>
      match skipSpace rest with
      | ']' :: rest => ([item], some rest)
      | ',' :: rest =>
        let (items, rest) := readItems fuel rest
        (item :: items, rest)
      | _ => ([item, .broken], none)

/-- Reads the fields of an object that is not empty, behind its brace or a comma. -/
def readFields : Nat → List Char → List (Option String × Reading) × Option (List Char)
  | 0, _ => ([(none, .broken)], none)
  | fuel + 1, cs =>
    match skipSpace cs with
    | '"' :: rest =>
      match readText {} rest with
      | none => ([(none, .broken)], none)
      | some (key, rest) =>
        match skipSpace rest with
        | ':' :: rest =>
          match readValue fuel rest with
          | (value, none) => ([(key, value)], none)
          | (value, some rest) =>
            match skipSpace rest with
            | '}' :: rest => ([(key, value)], some rest)
            | ',' :: rest =>
              let (fields, rest) := readFields fuel rest
              ((key, value) :: fields, rest)
            | _ => ([(key, value), (none, .broken)], none)
        | _ => ([(key, .broken)], none)
    | _ => ([(none, .broken)], none)

end

/-- Reads the value that a text starts with, and says whether nothing but white space follows it. -/
def read (cs : List Char) : Reading × Bool :=
  match readValue (2 * cs.length + 1) cs with
  | (r, some rest) => (r, (skipSpace rest).isEmpty)
  | (r, none) => (r, false)

namespace Reading

mutual

/-- The text of the value was read to its end. -/
def isComplete : Reading → Bool
  | .broken => false
  | .list items => areComplete items
  | .object fields => haveComplete fields
  | _ => true

def areComplete : List Reading → Bool
  | [] => true
  | item :: items => item.isComplete && areComplete items

def haveComplete : List (Option String × Reading) → Bool
  | [] => true
  | field :: fields => field.2.isComplete && haveComplete fields

end

mutual

/-- How many lists and objects are nested in each other at most. -/
def depth : Reading → Nat
  | .list items => depthOfItems items + 1
  | .object fields => depthOfFields fields + 1
  | _ => 0

def depthOfItems : List Reading → Nat
  | [] => 0
  | item :: items => max item.depth (depthOfItems items)

def depthOfFields : List (Option String × Reading) → Nat
  | [] => 0
  | field :: fields => max field.2.depth (depthOfFields fields)

end

mutual

/-- The value itself, if every part of it has one. -/
def toJson? : Reading → Option Json
  | .null => some .null
  | .bool b => some (.bool b)
  | .number n => n.map .number
  | .text s => s.map .text
  | .list items => (itemsJson? items).map .list
  | .object fields => (fieldsJson? fields).map .object
  | .broken => none

def itemsJson? : List Reading → Option (List Json)
  | [] => some []
  | item :: items => do pure ((← toJson? item) :: (← itemsJson? items))

def fieldsJson? : List (Option String × Reading) → Option (List (String × Json))
  | [] => some []
  | field :: fields => do pure ((← field.1, ← toJson? field.2) :: (← fieldsJson? fields))

end

end Reading

mutual

/-- A value as it is read from its text. -/
def toReading : Json → Reading
  | .null => .null
  | .bool b => .bool b
  | .number n => .number (some n)
  | .text s => .text (some s)
  | .list items => .list (itemsReading items)
  | .object fields => .object (fieldsReading fields)

def itemsReading : List Json → List Reading
  | [] => []
  | item :: items => toReading item :: itemsReading items

def fieldsReading : List (String × Json) → List (Option String × Reading)
  | [] => []
  | field :: fields => (some field.1, toReading field.2) :: fieldsReading fields

end

/-- The value that a text is, if it is one and nothing follows it. -/
def parse? (s : String) : Option Json :=
  match read s.toList with
  | (r, true) => r.toJson?
  | (_, false) => none

/-- The tree of a text that is JSON from its first to its last character. -/
def readWhole? (s : String) : Option Reading :=
  match read s.toList with
  | (r, true) => if r.isComplete then some r else none
  | (_, false) => none

end ChatService.Json
