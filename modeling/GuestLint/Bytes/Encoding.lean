import GuestLint.Bytes.Hex
import GuestLint.Bytes.Base64
/-!
# Named encodings

The encodings that a guest may name when it moves text into buffers and back. `encode` takes text
to bytes, `decode` takes bytes to text; neither fails.
-/
namespace GuestLint

inductive Encoding where
  | utf8
  | base64
  | base64Url
  | hex
  | latin1
  | ascii
  deriving Repr, DecidableEq

namespace Encoding

/-- The encoding that a name of any ASCII case stands for. -/
def ofName? (name : String) : Option Encoding :=
  match String.ofList (Text.asciiLower name.toList) with
  | "utf8" | "utf-8" => some utf8
  | "base64" => some base64
  | "base64url" => some base64Url
  | "hex" => some hex
  | "latin1" | "binary" => some latin1
  | "ascii" => some ascii
  | _ => none

/-- The bytes of a text. What base 64 cannot read as a whole has none, hexadecimal digits count up
to the first pair that is none, and the one byte encodings keep the low byte of each character. -/
def encode (e : Encoding) (text : String) : Bytes :=
  match e with
  | utf8 => Utf8.encode text
  | base64 | base64Url => (Base64.decode? text).getD []
  | hex => Hex.decode text
  | latin1 | ascii => text.toList.map fun c => UInt8.ofNat c.toNat

/-- The text of bytes. -/
def decode (e : Encoding) (bytes : Bytes) : String :=
  match e with
  | utf8 => Utf8.decodeLossy bytes
  | base64 => Base64.encode Base64.standard bytes
  | base64Url => Base64.encode Base64.urlSafe bytes
  | hex => Hex.encode bytes
  | latin1 => String.ofList (bytes.map fun b => Char.ofNat b.toNat)
  | ascii => String.ofList (bytes.map fun b => Char.ofNat (b.toNat % 128))

end Encoding
end GuestLint
