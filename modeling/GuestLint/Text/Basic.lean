/-!
# Text as lists of characters

Splitting, trimming and searching over `List Char`. Every function is a structural recursion or a
composition of list operations, so that the modules above can reason about paths, locations and
stack lines character by character.

* `strip?`: the text after a given start.
* `lines`: the lines of a text; a line break is a line feed with one optional carriage return
  before it, and a final break starts no further line.
* `trim`: drops blanks at both ends, for the blank class of `isBlank`.
* `cutLast`: cuts at the last occurrence of a separator.
-/
namespace GuestLint.Text

/-- The text that follows `start`, when the text begins with it. -/
def strip? : List Char → List Char → Option (List Char)
  | [], rest => some rest
  | _ :: _, [] => none
  | a :: start, b :: rest => if a = b then strip? start rest else none

/-- The text before `stop`, when the text ends with it. -/
def stripEnd? (stop text : List Char) : Option (List Char) :=
  (strip? stop.reverse text.reverse).map List.reverse

/-- Whether a number lies in one of some ranges. -/
def inRanges (ranges : List (Nat × Nat)) (n : Nat) : Bool :=
  ranges.any fun (low, high) => low ≤ n && n ≤ high

/-- The characters that the Unicode property White_Space holds. -/
def isBlank (c : Char) : Bool :=
  let n := c.toNat
  (9 ≤ n && n ≤ 13) || n == 0x20 || n == 0x85 || n == 0xA0 || n == 0x1680 ||
    (0x2000 ≤ n && n ≤ 0x200A) || n == 0x2028 || n == 0x2029 || n == 0x202F || n == 0x205F ||
    n == 0x3000

def trimStart (text : List Char) : List Char :=
  text.dropWhile isBlank

def trimEnd (text : List Char) : List Char :=
  (text.reverse.dropWhile isBlank).reverse

def trim (text : List Char) : List Char :=
  trimEnd (trimStart text)

/-- The text without the given character at its end. -/
def trimEndOf (c : Char) (text : List Char) : List Char :=
  (text.reverse.dropWhile (· == c)).reverse

/-- Cuts at the last occurrence of a character: what stands before it and what stands after it. -/
def cutLast (c : Char) (text : List Char) : Option (List Char × List Char) :=
  let tail := text.reverse.takeWhile (· != c)
  match text.reverse.dropWhile (· != c) with
  | [] => none
  | _ :: before => some (before.reverse, tail.reverse)

/-- Cuts at the first occurrence of a character. -/
def cutFirst (c : Char) (text : List Char) : Option (List Char × List Char) :=
  match text.dropWhile (· != c) with
  | [] => none
  | _ :: after => some (text.takeWhile (· != c), after)

/-- Drops one carriage return at the end of a line that a line feed closed. -/
def dropReturn (line : List Char) : List Char :=
  (stripEnd? ['\r'] line).getD line

/-- The lines of a text. A line feed closes a line, together with one carriage return before it;
what follows the last line feed is a line only when it is not empty, and keeps its carriage
return. -/
def lines (text : List Char) : List (List Char) :=
  match (text.splitOn '\n').reverse with
  | [] => []
  | last :: closed =>
    let closed := closed.reverse.map dropReturn
    if last.isEmpty then closed else closed ++ [last]

/-- The size of a text in bytes. -/
def byteCount (text : List Char) : Nat :=
  text.foldl (fun n c => n + c.utf8Size) 0

/-- The size of a text in UTF-16 units. -/
def unitCount (text : List Char) : Nat :=
  text.foldl (fun n c => n + if c.toNat < 0x10000 then 1 else 2) 0

/-- Lower case of the ASCII letters; every other character stays. -/
def asciiLower (text : List Char) : List Char :=
  text.map Char.toLower

/-- Whether a text is a numeral: digits only, and at least one. -/
def isNumeral (text : List Char) : Bool :=
  !text.isEmpty && text.all Char.isDigit

/-- The value of a numeral. -/
def numeralValue (text : List Char) : Nat :=
  text.foldl (fun n c => n * 10 + (c.toNat - '0'.toNat)) 0

/-- The digits of a number below sixteen, in lower case. -/
def hexDigit (n : Nat) : Char :=
  Char.ofNat (if n < 10 then '0'.toNat + n else 'a'.toNat + (n - 10))

/-- The value of a hexadecimal digit of either case. -/
def hexValue? (c : Char) : Option Nat :=
  if '0' ≤ c ∧ c ≤ '9' then some (c.toNat - '0'.toNat)
  else if 'a' ≤ c ∧ c ≤ 'f' then some (c.toNat - 'a'.toNat + 10)
  else if 'A' ≤ c ∧ c ≤ 'F' then some (c.toNat - 'A'.toNat + 10)
  else none

/-- A number in the given base (at most sixteen), without leading zeros. -/
def digits (base n : Nat) : List Char :=
  Nat.toDigits base n

/-- Pads on the left up to a width. -/
def padStart (width : Nat) (fill : Char) (text : List Char) : List Char :=
  List.replicate (width - text.length) fill ++ text

end GuestLint.Text
