import ChatService.Text.Blank
import ChatService.Text.Hex
import ChatService.Text.Quoted.Table

/-!
# Quoted text in error messages

A text that an error message quotes is written so that it can be seen: quotes and backslashes are
escaped, and a character without a glyph of its own is named by its code point.
-/

namespace ChatService.Text

/-- The hexadecimal digits of a code point without leading zeros. -/
def codePointDigits (n : Nat) : List Char :=
  match (hexDigits 6 n).dropWhile (· = '0') with
  | [] => ['0']
  | digits => digits

/-- A character inside quotes. -/
def showChar (c : Char) : List Char :=
  if c = '\x00' then ['\\', '0']
  else if c = '\t' then ['\\', 't']
  else if c = '\r' then ['\\', 'r']
  else if c = '\n' then ['\\', 'n']
  else if c = '"' || c = '\\' then ['\\', c]
  else if inRanges unshownRanges c then ['\\', 'u', '\x7b'] ++ codePointDigits c.toNat ++ ['\x7d']
  else [c]

/-- A text in quotes. -/
def quoted (s : String) : String := String.ofList ('"' :: (s.toList.flatMap showChar ++ ['"']))

end ChatService.Text
