import GuestLint.Url.Percent
import GuestLint.Url.Domain
/-!
# Hosts of URLs

A host is a domain name or an address. Addresses have several spellings, which all become one:
four decimal numbers, or eight hexadecimal groups with the longest run of zero groups left out.
-/
namespace GuestLint.Url

inductive Host where
  | domain (name : List Char)
  | ipv4 (address : Nat)
  | ipv6 (groups : List Nat)
  deriving Repr, DecidableEq

/-! ## Addresses of 32 bits -/

/-- A number in an address: decimal, octal behind `0` or hexadecimal behind `0x`. -/
def addressNumber? (text : List Char) : Option Nat :=
  let read (base : Nat) (digits : List Char) : Option Nat :=
    digits.foldlM
      (fun n c =>
        match Text.hexValue? c with
        | some v => if v < base then some (n * base + v) else none
        | none => none)
      0
  match text with
  | [] => none
  | '0' :: 'x' :: digits => read 16 digits
  | '0' :: 'X' :: digits => read 16 digits
  | '0' :: c :: digits => read 8 (c :: digits)
  | digits => read 10 digits

/-- The parts between the dots of a host, without an empty last one. -/
def addressParts (text : List Char) : List (List Char) :=
  match (text.splitOn '.').reverse with
  | [] :: rest => rest.reverse
  | parts => parts.reverse

/-- Whether the last part of a host is a number, so that the host has to be an address. -/
def endsInNumber (text : List Char) : Bool :=
  match (addressParts text).getLast? with
  | none => false
  | some last => Text.isNumeral last || (addressNumber? last).isSome

/-- Reads an address: up to four numbers, of which the last fills the bytes that the others
leave. -/
def ipv4? (text : List Char) : Option Nat := do
  let numbers ← (addressParts text).mapM addressNumber?
  let last ← numbers.getLast?
  let leading := numbers.dropLast
  let room := Nat.pow 256 (4 - leading.length)
  if 3 < leading.length || leading.any (255 < ·) || room ≤ last then none
  else
    some (leading.zipIdx.foldl (fun total (n, i) => total + n * Nat.pow 256 (3 - i)) last)

def writeIpv4 (address : Nat) : List Char :=
  List.intercalate ['.'] ([3, 2, 1, 0].map fun i => Text.digits 10 (address / Nat.pow 256 i % 256))

/-! ## Addresses of 128 bits -/

/-- A decimal byte in the dotted part of an address. -/
def dottedByte? (text : List Char) : Option Nat :=
  if Text.isNumeral text && text.length ≤ 3 && (text.length == 1 || text.head? != some '0') then
    let n := Text.numeralValue text
    if n ≤ 255 then some n else none
  else none

/-- A group of an address: up to four hexadecimal digits. -/
def hexGroup? (text : List Char) : Option Nat :=
  if text.isEmpty || 4 < text.length then none
  else text.foldlM (fun n c => (Text.hexValue? c).map fun v => n * 16 + v) 0

/-- The groups of a text between colons; a dotted part at the end stands for two groups. -/
def groups? (dotted : Bool) : List (List Char) → Option (List Nat)
  | [] => some []
  | [last] =>
    if dotted && last.contains '.' then
      match (last.splitOn '.').mapM dottedByte? with
      | some [a, b, c, d] => some [a * 256 + b, c * 256 + d]
      | _ => none
    else (hexGroup? last).map fun g => [g]
  | part :: rest => do
    let g ← hexGroup? part
    let gs ← groups? dotted rest
    pure (g :: gs)

/-- Cuts at the first pair of colons. -/
def cutAtPair : List Char → Option (List Char × List Char)
  | ':' :: ':' :: rest => some ([], rest)
  | c :: rest => (cutAtPair rest).map fun (before, after) => (c :: before, after)
  | [] => none

def groupTexts (text : List Char) : List (List Char) :=
  if text.isEmpty then [] else text.splitOn ':'

/-- Reads the eight groups of an address. A pair of colons stands for one zero group or more. -/
def ipv6? (text : List Char) : Option (List Nat) :=
  match cutAtPair text with
  | none => do
    let gs ← groups? true (groupTexts text)
    if gs.length = 8 then some gs else none
  | some (before, after) => do
    let front ← groups? false (groupTexts before)
    let back ← groups? true (groupTexts after)
    let missing := 8 - (front.length + back.length)
    if missing = 0 then none else some (front ++ List.replicate missing 0 ++ back)

/-- How many zero groups a list starts with. -/
def zeroRun (gs : List Nat) : Nat :=
  (gs.takeWhile (· == 0)).length

/-- The first longest run of zero groups, as its place and its length. -/
def longestRun (gs : List Nat) : Nat × Nat :=
  (List.range gs.length).foldl
    (fun (best : Nat × Nat) i =>
      let n := zeroRun (gs.drop i)
      if best.2 < n then (i, n) else best)
    (0, 0)

def writeIpv6 (gs : List Nat) : List Char :=
  let write (gs : List Nat) : List Char := List.intercalate [':'] (gs.map (Text.digits 16))
  let (place, length) := longestRun gs
  if length < 2 then write gs
  else write (gs.take place) ++ [':', ':'] ++ write (gs.drop (place + length))

/-! ## Hosts -/

/-- The written form of a host. -/
def Host.write : Host → List Char
  | domain name => name
  | ipv4 address => writeIpv4 address
  | ipv6 groups => '[' :: (writeIpv6 groups ++ [']'])

/-- The text between brackets. -/
def bracketed? (text : List Char) : Option (List Char) :=
  match text with
  | '[' :: rest => Text.stripEnd? [']'] rest
  | _ => none

/-- Reads the host of a URL with a known scheme. -/
def Host.read? (text : List Char) : Option Host :=
  if text.head? = some '[' then do
    let inner ← bracketed? text
    let gs ← ipv6? inner
    pure (.ipv6 gs)
  else do
    let name ← domainToAscii (percentDecode text)
    if name.isEmpty then none
    else if endsInNumber name then (ipv4? name).map .ipv4
    else some (.domain name)

def isOpaqueDenied (c : Char) : Bool :=
  c ∈ [Char.ofNat 0, '\t', '\n', '\r', ' ', '#', '/', ':', '<', '>', '?', '@', '[', '\\', ']', '^',
    '|']

/-- Reads the host of a URL whose scheme is not known: it is kept as it is. -/
def Host.readOpaque? (text : List Char) : Option Host :=
  if text.head? = some '[' then do
    let inner ← bracketed? text
    let gs ← ipv6? inner
    pure (.ipv6 gs)
  else if text.any isOpaqueDenied then none
  else some (.domain (percentEncode controls text))

end GuestLint.Url
