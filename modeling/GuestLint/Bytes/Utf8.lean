/-!
# UTF-8

Bytes are plain lists. `encode` writes a text, `decodeLossy` reads any bytes, and `decode?` reads
well formed ones only.

A reader that meets ill formed bytes puts one replacement character for each maximal part that
could have started a character, and goes on behind that part.
-/
namespace GuestLint

/-- File contents and the memory of buffers. -/
abbrev Bytes := List UInt8

namespace Utf8

/-- The bytes of a text. -/
def encode (text : String) : Bytes :=
  text.toList.flatMap String.utf8EncodeChar

/-- The mark put for what cannot be read. -/
def replacement : Char := Char.ofNat 0xFFFD

/-- Whether a byte continues a character. -/
def isContinuation (b : UInt8) : Bool :=
  0x80 ≤ b && b ≤ 0xBF

/-- The bytes that may follow a leading byte of three or more, so that the character has no shorter
form, is no surrogate and stays below the end of the code space. -/
def secondRange (lead : UInt8) : UInt8 × UInt8 :=
  if lead = 0xE0 then (0xA0, 0xBF)
  else if lead = 0xED then (0x80, 0x9F)
  else if lead = 0xF0 then (0x90, 0xBF)
  else if lead = 0xF4 then (0x80, 0x8F)
  else (0x80, 0xBF)

def isSecond (lead b : UInt8) : Bool :=
  (secondRange lead).1 ≤ b && b ≤ (secondRange lead).2

/-- The payload of a byte that continues a character. -/
def payload (b : UInt8) : Nat :=
  b.toNat % 64

/-- The first character of `lead :: rest`, and how many bytes of `rest` belong to it. -/
def next (lead : UInt8) (rest : Bytes) : Char × Nat :=
  if lead < 0x80 then (Char.ofNat lead.toNat, 0)
  else if 0xC2 ≤ lead && lead ≤ 0xDF then
    match rest with
    | b :: _ =>
      if isContinuation b then (Char.ofNat (lead.toNat % 32 * 64 + payload b), 1)
      else (replacement, 0)
    | [] => (replacement, 0)
  else if 0xE0 ≤ lead && lead ≤ 0xEF then
    match rest with
    | b :: c :: _ =>
      if isSecond lead b then
        if isContinuation c then
          (Char.ofNat (lead.toNat % 16 * 4096 + payload b * 64 + payload c), 2)
        else (replacement, 1)
      else (replacement, 0)
    | [b] => (replacement, if isSecond lead b then 1 else 0)
    | [] => (replacement, 0)
  else if 0xF0 ≤ lead && lead ≤ 0xF4 then
    match rest with
    | b :: c :: d :: _ =>
      if isSecond lead b then
        if isContinuation c then
          if isContinuation d then
            (Char.ofNat
              (lead.toNat % 8 * 262144 + payload b * 4096 + payload c * 64 + payload d), 3)
          else (replacement, 2)
        else (replacement, 1)
      else (replacement, 0)
    | [b, c] => (replacement, if isSecond lead b then if isContinuation c then 2 else 1 else 0)
    | [b] => (replacement, if isSecond lead b then 1 else 0)
    | [] => (replacement, 0)
  else (replacement, 0)

/-- Reads any bytes as characters. -/
def decodeChars : Bytes → List Char
  | [] => []
  | lead :: rest =>
    let (c, used) := next lead rest
    c :: decodeChars (rest.drop used)
termination_by bytes => bytes.length
decreasing_by
  rw [List.length_drop, List.length_cons]
  omega

/-- Reads any bytes as text. -/
def decodeLossy (bytes : Bytes) : String :=
  String.ofList (decodeChars bytes)

/-- Reads well formed bytes: those that the text read from them is written as. -/
def decode? (bytes : Bytes) : Option String :=
  let text := decodeLossy bytes
  if encode text = bytes then some text else none

end Utf8
end GuestLint
