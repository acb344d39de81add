import GuestLint.Text.Basic
import GuestLint.Bytes.Utf8
/-!
# Percent encoding

Bytes that a part of a URL may not hold are written as a percent sign and two hexadecimal digits.
Each part of a URL has its own set of characters that are written so; controls and everything
outside ASCII always are.
-/
namespace GuestLint.Url

/-- A set of ASCII characters that are to be encoded. -/
abbrev EncodeSet := Char → Bool

def controls : EncodeSet := fun c => c.toNat < 0x20 || 0x7E < c.toNat

def fragmentSet : EncodeSet := fun c => controls c || c ∈ [' ', '"', '<', '>', Char.ofNat 0x60]

def pathSet : EncodeSet := fun c =>
  fragmentSet c || c ∈ ['#', '?', Char.ofNat 0x7B, Char.ofNat 0x7D]

def userinfoSet : EncodeSet := fun c =>
  pathSet c || c ∈ ['/', ':', ';', '=', '@', '[', '\\', ']', '^', '|']

/-- For one segment of a path that is given as such. -/
def segmentSet : EncodeSet := fun c => pathSet c || c ∈ ['/', '%', '\\']

def querySet : EncodeSet := fun c => controls c || c ∈ [' ', '"', '#', '<', '>']

def specialQuerySet : EncodeSet := fun c => querySet c || c == '\''

def upperHex (n : Nat) : Char := (Text.hexDigit n).toUpper

/-- A byte as a percent sign and two digits. -/
def encodeByte (b : UInt8) : List Char :=
  ['%', upperHex (b.toNat / 16), upperHex (b.toNat % 16)]

def encodeChar (set : EncodeSet) (c : Char) : List Char :=
  if set c then (String.utf8EncodeChar c).flatMap encodeByte else [c]

def percentEncode (set : EncodeSet) (text : List Char) : List Char :=
  text.flatMap (encodeChar set)

/-- The bytes of a text with every percent sign resolved that two digits follow. -/
def percentDecode : List Char → Bytes
  | '%' :: a :: b :: rest =>
    match Text.hexValue? a, Text.hexValue? b with
    | some x, some y => UInt8.ofNat (x * 16 + y) :: percentDecode rest
    | _, _ => 0x25 :: percentDecode (a :: b :: rest)
  | c :: rest => String.utf8EncodeChar c ++ percentDecode rest
  | [] => []

end GuestLint.Url
