/-!
# UTF-8

Bytes as characters. Bytes are read one by one; what cannot be part of a character becomes a gap,
and bytes that begin a character and break off make one gap together.
-/

namespace ChatService.Text

/-- The bytes of a text. -/
def utf8 (cs : List Char) : List UInt8 := cs.flatMap String.utf8EncodeChar

/-- A character of which some bytes have been read. -/
structure Unfinished where
  value : Nat
  /-- How many bytes are still to come. -/
  left : Nat
  /-- The bounds of the next byte. -/
  low : Nat
  high : Nat
deriving Repr

/-- What is known after a byte: characters and gaps that ended with it, last first, and the
    character that it belongs to. -/
abbrev ByteStep : Type := List (Option Char) × Option Unfinished

/-- The first byte of a character. Bounds keep out longer spellings than needed, halves of surrogate
    pairs, and numbers beyond the last character. -/
def firstByte (b : Nat) : ByteStep :=
  if b < 0x80 then ([some (Char.ofNat b)], none)
  else if b < 0xC2 then ([none], none)
  else if b < 0xE0 then ([], some ⟨b - 0xC0, 1, 0x80, 0xBF⟩)
  else if b < 0xF0 then
    ([], some
      ⟨b - 0xE0, 2, if b = 0xE0 then 0xA0 else 0x80, if b = 0xED then 0x9F else 0xBF⟩)
  else if b < 0xF5 then
    ([], some
      ⟨b - 0xF0, 3, if b = 0xF0 then 0x90 else 0x80, if b = 0xF4 then 0x8F else 0xBF⟩)
  else ([none], none)

/-- The next byte after an unfinished character. -/
def nextByte (p : Unfinished) (b : Nat) : ByteStep :=
  if p.low ≤ b ∧ b ≤ p.high then
    let value := p.value * 64 + (b - 0x80)
    if p.left = 1 then ([some (Char.ofNat value)], none)
    else ([], some ⟨value, p.left - 1, 0x80, 0xBF⟩)
  else
    let (ended, begun) := firstByte b
    (ended ++ [none], begun)

/-- Reads bytes behind an unfinished character; `done` holds what was read before, last first. -/
def readUtf8 (done : List (Option Char)) : Option Unfinished → List UInt8 → List (Option Char)
  | none, [] => done.reverse
  | some _, [] => (none :: done).reverse
  | none, b :: rest =>
    let (ended, begun) := firstByte b.toNat
    readUtf8 (ended ++ done) begun rest
  | some p, b :: rest =>
    let (ended, begun) := nextByte p b.toNat
    readUtf8 (ended ++ done) begun rest

/-- The characters that bytes stand for, with gaps where they stand for none. -/
def utf8Chars (bytes : List UInt8) : List (Option Char) := readUtf8 [] none bytes

/-- The text with these bytes, if they are the bytes of one. -/
def ofUtf8? (bytes : List UInt8) : Option String := ((utf8Chars bytes).mapM id).map String.ofList

/-- The text with these bytes, and the replacement character in every gap. -/
def ofUtf8Lossy (bytes : List UInt8) : String :=
  String.ofList ((utf8Chars bytes).map fun c => c.getD '\uFFFD')

example : ofUtf8Lossy [0x61, 0xC3, 0xA9, 0xFF, 0xE2, 0x82, 0x62] = "aé��b" := by decide
example : ofUtf8? (utf8 "aé€😀".toList) = some "aé€😀" := by decide
example : ofUtf8? [0xED, 0xA0, 0x80] = none := by decide

end ChatService.Text
