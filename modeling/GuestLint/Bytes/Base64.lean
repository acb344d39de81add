import GuestLint.Text.Basic
import GuestLint.Bytes.Utf8
/-!
# Base 64

`encode` writes with either alphabet, padded or not. `decode` reads both alphabets at once, skips
blanks and padding, and has no answer for a character outside the alphabets or for a lone last
sextet.
-/
namespace GuestLint.Base64

/-- The last two letters of an alphabet, and whether a short last group is padded. -/
structure Alphabet where
  letter62 : Char
  letter63 : Char
  padded : Bool

def standard : Alphabet := ⟨'+', '/', true⟩

def urlSafe : Alphabet := ⟨'-', '_', false⟩

/-- The letter of a sextet. -/
def letter (a : Alphabet) (n : Nat) : Char :=
  if n < 26 then Char.ofNat ('A'.toNat + n)
  else if n < 52 then Char.ofNat ('a'.toNat + (n - 26))
  else if n < 62 then Char.ofNat ('0'.toNat + (n - 52))
  else if n = 62 then a.letter62
  else a.letter63

def pad (a : Alphabet) (n : Nat) : List Char :=
  if a.padded then List.replicate n '=' else []

/-- Three bytes become four letters; the last group may be shorter. -/
def encodeChars (a : Alphabet) : Bytes → List Char
  | x :: y :: z :: rest =>
    letter a (x.toNat / 4) :: letter a (x.toNat % 4 * 16 + y.toNat / 16) ::
      letter a (y.toNat % 16 * 4 + z.toNat / 64) :: letter a (z.toNat % 64) :: encodeChars a rest
  | [x, y] =>
    letter a (x.toNat / 4) :: letter a (x.toNat % 4 * 16 + y.toNat / 16) ::
      letter a (y.toNat % 16 * 4) :: pad a 1
  | [x] => letter a (x.toNat / 4) :: letter a (x.toNat % 4 * 16) :: pad a 2
  | [] => []

def encode (a : Alphabet) (bytes : Bytes) : String :=
  String.ofList (encodeChars a bytes)

/-- The value of a letter of either alphabet. -/
def value? (c : Char) : Option Nat :=
  if 'A' ≤ c ∧ c ≤ 'Z' then some (c.toNat - 'A'.toNat)
  else if 'a' ≤ c ∧ c ≤ 'z' then some (c.toNat - 'a'.toNat + 26)
  else if '0' ≤ c ∧ c ≤ '9' then some (c.toNat - '0'.toNat + 52)
  else if c = '+' ∨ c = '-' then some 62
  else if c = '/' ∨ c = '_' then some 63
  else none

/-- Whether a reader skips a character. -/
def isSkipped (c : Char) : Bool :=
  Text.isBlank c || c == '='

/-- Four sextets become three bytes. Of a shorter last group the bits that fill no byte are dropped;
a single sextet fills none and is no group. -/
def joinSextets : List Nat → Option Bytes
  | a :: b :: c :: d :: rest =>
    (joinSextets rest).map fun bytes =>
      UInt8.ofNat (a * 4 + b / 16) :: UInt8.ofNat (b % 16 * 16 + c / 4) ::
        UInt8.ofNat (c % 4 * 64 + d) :: bytes
  | [a, b, c] => some [UInt8.ofNat (a * 4 + b / 16), UInt8.ofNat (b % 16 * 16 + c / 4)]
  | [a, b] => some [UInt8.ofNat (a * 4 + b / 16)]
  | [_] => none
  | [] => some []

/-- The values of letters, when each character is one. -/
def values? : List Char → Option (List Nat)
  | [] => some []
  | c :: rest => do
    let v ← value? c
    let vs ← values? rest
    pure (v :: vs)

/-- Reads a text in either alphabet. -/
def decode? (text : String) : Option Bytes := do
  let values ← values? (text.toList.filter fun c => !isSkipped c)
  joinSextets values

end GuestLint.Base64
