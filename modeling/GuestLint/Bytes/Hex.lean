import GuestLint.Text.Basic
import GuestLint.Bytes.Utf8
/-!
# Bytes as hexadecimal digits

`encode` writes two lower case digits for each byte. `decode` reads digits of either case, two
at a time, up to the first pair that is no such pair.
-/
namespace GuestLint.Hex

/-- The two digits of a byte. -/
def digitsOf (b : UInt8) : List Char :=
  [Text.hexDigit (b.toNat / 16), Text.hexDigit (b.toNat % 16)]

/-- Two lower case digits for each byte. -/
def encode (bytes : Bytes) : String :=
  String.ofList (bytes.flatMap digitsOf)

/-- The value of a byte that holds a hexadecimal digit. -/
def nibble? (b : UInt8) : Option Nat :=
  if b < 0x80 then Text.hexValue? (Char.ofNat b.toNat) else none

/-- The bytes that the leading pairs of digits denote. -/
def decodePairs : Bytes → Bytes
  | hi :: lo :: rest =>
    match nibble? hi, nibble? lo with
    | some h, some l => UInt8.ofNat (h * 16 + l) :: decodePairs rest
    | _, _ => []
  | _ => []

/-- Reads a text up to the first pair of its bytes that is no pair of digits. -/
def decode (text : String) : Bytes :=
  decodePairs (Utf8.encode text)

end GuestLint.Hex
