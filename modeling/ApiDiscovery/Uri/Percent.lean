import ApiDiscovery.Text.Digit
import ApiDiscovery.Text.Utf8

/-!
# Percent encoding

A character that may not stand for itself is written as its UTF-8 bytes, each as a percent sign
and two hexadecimal digits. Decoding turns every such escape into its byte and reads the bytes
as UTF-8; a percent sign without two digits stands for itself.
-/

namespace ApiDiscovery.Uri.Percent

open ApiDiscovery.Text

/-- Letters and digits of ASCII and the four marks that never need an escape. -/
def isUnreserved (c : Char) : Bool :=
  ('a' ≤ c && c ≤ 'z') || ('A' ≤ c && c ≤ 'Z') || ('0' ≤ c && c ≤ '9') ||
    c == '_' || c == '.' || c == '-' || c == '~'

/-- The characters that separate the parts of an address, and those that separate within one. -/
def isReserved (c : Char) : Bool := ":/?#[]@!$&'()*+,;=".toList.contains c

/-- The escape of a byte. -/
def escapeByte (b : UInt8) : List Char :=
  ['%', hexDigitUpper (b.toNat / 16), hexDigitUpper (b.toNat % 16)]

/-- The escape of a character, or the character if it may be kept. -/
def encodeChar (keep : Char → Bool) (c : Char) : List Char :=
  if keep c then [c] else (Utf8.encodeChar c).flatMap escapeByte

/-- The text with every character escaped that may not be kept. -/
def encode (keep : Char → Bool) (s : List Char) : List Char := s.flatMap (encodeChar keep)

/-- The byte of an escape whose two digits these are. -/
def byte? (a b : Char) : Option UInt8 := do
  let high ← hexValue? a
  let low ← hexValue? b
  some (UInt8.ofNat (high * 16 + low))

/-- The bytes a text stands for. -/
def bytes : List Char → List UInt8
  | [] => []
  | '%' :: a :: b :: rest =>
    match byte? a b with
    | some byte => byte :: bytes rest
    | none => Utf8.encodeChar '%' ++ bytes (a :: b :: rest)
  | c :: rest => Utf8.encodeChar c ++ bytes rest

/-- The text that an encoded text stands for, with U+FFFD for bytes that are no character. -/
def decode (s : List Char) : List Char := Utf8.decodeTolerant (bytes s)

end ApiDiscovery.Uri.Percent
