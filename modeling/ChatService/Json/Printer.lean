import ChatService.Double.Shortest
import ChatService.Json.Value
import ChatService.Text.Hex

/-!
# JSON text

The text of a value without white space between its parts, fields in the order they have. In a text
only the quote, the backslash and control characters are escaped.
-/

namespace ChatService.Json

/-- A character inside quotes. -/
def escape (c : Char) : List Char :=
  if c = '"' then ['\\', '"']
  else if c = '\\' then ['\\', '\\']
  else if c = '\x08' then ['\\', 'b']
  else if c = '\x0c' then ['\\', 'f']
  else if c = '\n' then ['\\', 'n']
  else if c = '\r' then ['\\', 'r']
  else if c = '\t' then ['\\', 't']
  else if c.toNat < 0x20 then ['\\', 'u'] ++ Text.hexDigits 4 c.toNat
  else [c]

/-- A text in quotes. -/
def quote (s : String) : List Char := '"' :: (s.toList.flatMap escape ++ ['"'])

/-- The decimal digits of a count. -/
def natChars (n : Nat) : List Char := Nat.toDigits 10 n

/-- The decimal digits of a whole number, after a minus sign if it is negative. -/
def intChars (n : Int) : List Char :=
  if n < 0 then '-' :: natChars n.natAbs else natChars n.natAbs

def Number.chars : Number → List Char
  | .integer n => intChars n
  | .double x => x.chars

mutual

/-- The text of a value. -/
def chars : Json → List Char
  | .null => ['n', 'u', 'l', 'l']
  | .bool true => ['t', 'r', 'u', 'e']
  | .bool false => ['f', 'a', 'l', 's', 'e']
  | .number n => n.chars
  | .text s => quote s
  | .list [] => ['[', ']']
  | .list (item :: items) => '[' :: (chars item ++ itemsChars items)
  | .object [] => ['{', '}']
  | .object (field :: fields) =>
    '{' :: (quote field.1 ++ ':' :: chars field.2 ++ fieldsChars fields)

/-- The items after the first, and the closing bracket. -/
def itemsChars : List Json → List Char
  | [] => [']']
  | item :: items => ',' :: (chars item ++ itemsChars items)

/-- The fields after the first, and the closing brace. -/
def fieldsChars : List (String × Json) → List Char
  | [] => ['}']
  | field :: fields => ',' :: (quote field.1 ++ ':' :: chars field.2 ++ fieldsChars fields)

end

/-- The text of a value. -/
def render (j : Json) : String := String.ofList j.chars

end ChatService.Json
