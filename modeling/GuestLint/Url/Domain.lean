import GuestLint.Url.Direction
import GuestLint.Url.Joiner
import GuestLint.Url.Punycode
import GuestLint.Url.Spelling
import GuestLint.Bytes.Utf8
/-!
# Domain names in ASCII

A domain name may hold any characters. It is first brought into its one spelling. Labels with
characters outside ASCII are then written in Punycode behind `xn--`.

* `labelForms?`: the two forms of a label, one of them in ASCII.
* `domainToAscii`: the labels in ASCII, unless one of them is refused or they cannot be told apart.
-/
namespace GuestLint.Url

/-- ASCII characters that no domain name holds. -/
def isDenied (c : Char) : Bool :=
  c.toNat ≤ 0x20 || c.toNat == 0x7F ||
    c ∈ ['#', '%', '/', ':', '<', '>', '?', '@', '[', '\\', ']', '^', '|']

/-- Whether characters may stand in a label. -/
def isLabel (label : List Char) : Bool :=
  label.all (fun c => !isDenied c && !Text.inRanges refusedRanges c.toNat) &&
    (label.head?.all fun c => !Text.isMark c) && joinersWanted [] label

def isAscii (text : List Char) : Bool :=
  text.all fun c => c.toNat < 128

/-- The mark in front of a label in Punycode. -/
def punycodeMark : List Char := "xn--".toList

/-- A label as it reads, and in ASCII. -/
structure LabelForms where
  shown : List Char
  ascii : List Char
  deriving Repr, DecidableEq

/-- Both forms of a label. A label in Punycode has to read as one that needs it. -/
def labelForms? (label : List Char) : Option LabelForms :=
  match Text.strip? punycodeMark label with
  | some text =>
    if isAscii text then do
      let shown ← Punycode.decode text
      if isAscii shown || spell shown != shown || !isLabel shown then none
      else some ⟨shown, label⟩
    else none
  | none =>
    if isLabel label then
      some ⟨label, if isAscii label then label else punycodeMark ++ Punycode.encode label⟩
    else none

/-- Brings a domain name into ASCII. -/
def domainToAscii (bytes : Bytes) : Option (List Char) := do
  let text ← Utf8.decode? bytes
  let labels ← ((spell text.toList).splitOn '.').mapM labelForms?
  if isOrderly (labels.map (·.shown)) then
    pure (List.intercalate ['.'] (labels.map (·.ascii)))
  else none

end GuestLint.Url
