import ChatService.Json.Reading
import ChatService.Text.Utf8

/-!
# Reading JSON from bytes

JSON is read from bytes as they come. Bytes that are no character spoil a text that is wanted and
do no harm in one that is skipped; outside of texts they are not JSON.
-/

namespace ChatService.Json

/-- Half of a surrogate pair, twice: with whatever stands in front of it or behind it, the text that
    it stands in cannot be read. -/
def unreadable : List Char := "\\udc00\\udc00".toList

/-- Characters and gaps as JSON text, with something unreadable in every gap. Behind a backslash
    that begins an escape a gap is not JSON. -/
def fillGaps (done : List Char) (escaping : Bool) : List (Option Char) → List Char
  | [] => done.reverse
  | some c :: rest => fillGaps (c :: done) (!escaping && c = '\\') rest
  | none :: rest =>
    fillGaps ((if escaping then ['\x00'] else unreadable.reverse) ++ done) false rest

/-- The JSON text that bytes are read as. -/
def charsOf (bytes : List UInt8) : List Char := fillGaps [] false (Text.utf8Chars bytes)

/-- The tree of bytes that are JSON from the first to the last. -/
def readBytes? (bytes : List UInt8) : Option Reading := readWhole? (String.ofList (charsOf bytes))

end ChatService.Json
