import ChatService.Text.Hex
import ChatService.Text.Utf8

/-!
# Percent-encoding

Bytes written as a percent sign and two hexadecimal digits, as addresses do with characters that
have a meaning of their own. When reading, a percent sign without two digits behind it stands for
itself.
-/

namespace ChatService.Text

/-- The character with a number below 128 that a byte holds, and otherwise any larger one. -/
def byteChar (b : UInt8) : Char := Char.ofNat b.toNat

/-- Puts the bytes that are meant in the place of percent signs with two digits. -/
def percentDecode : List UInt8 → List UInt8
  | [] => []
  | b :: high :: low :: rest =>
    if b = 0x25 then
      match hexValue? (byteChar high), hexValue? (byteChar low) with
      | some h, some l => UInt8.ofNat (h * 16 + l) :: percentDecode rest
      | _, _ => b :: percentDecode (high :: low :: rest)
    else b :: percentDecode (high :: low :: rest)
  | b :: rest => b :: percentDecode rest

/-- The text that a percent-encoded text stands for, unless its bytes are not those of a text. -/
def percentDecodeText? (cs : List Char) : Option String := ofUtf8? (percentDecode (utf8 cs))

/-- A byte as a percent sign and two digits, letters in upper case. -/
def percentByte (b : UInt8) : List Char :=
  '%' :: (hexDigits 2 b.toNat).map Char.toUpper

/-- Encodes the characters that may not stand for themselves. -/
def percentEncode (isReserved : Char → Bool) (cs : List Char) : List Char :=
  cs.flatMap fun c => if isReserved c then (String.utf8EncodeChar c).flatMap percentByte else [c]

end ChatService.Text
