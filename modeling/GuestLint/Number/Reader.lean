import GuestLint.Text.Basic
import GuestLint.Number.Double
/-!
# Numbers read from text

The numeral grammar of guest programs: decimal numerals with an optional fraction and exponent,
`Infinity`, and integers in base 16, 8 or 2. Blanks around a numeral are skipped, the empty text is
zero, and any other text is no number.
-/
namespace GuestLint.Number

/-- The blanks that may surround a numeral. -/
def isGuestBlank (c : Char) : Bool :=
  c.toNat == 0xFEFF || (Text.isBlank c && c.toNat != 0x85)

def trimGuest (text : List Char) : List Char :=
  ((text.dropWhile isGuestBlank).reverse.dropWhile isGuestBlank).reverse

/-- A signed integer with at least one digit. -/
def readExponent (text : List Char) : Option Int :=
  let magnitude (digits : List Char) : Option Int :=
    if Text.isNumeral digits then some (Int.ofNat (Text.numeralValue digits)) else none
  match text with
  | '-' :: digits => (magnitude digits).map (- ·)
  | '+' :: digits => magnitude digits
  | digits => magnitude digits

/-- A decimal numeral without sign: digits, a fraction and an exponent, with at least one digit
before or behind the point. -/
def readDecimal (negative : Bool) (text : List Char) : Option Double :=
  let whole := text.takeWhile Char.isDigit
  let rest := text.dropWhile Char.isDigit
  let (fraction, rest) :=
    match rest with
    | '.' :: rest => (rest.takeWhile Char.isDigit, rest.dropWhile Char.isDigit)
    | rest => ([], rest)
  let digits := whole ++ fraction
  if digits.isEmpty then none
  else
    let number (e : Int) :=
      Double.ofDecimal negative (Text.numeralValue digits) (e - Int.ofNat fraction.length)
    match rest with
    | [] => some (number 0)
    | c :: exponent => if c = 'e' ∨ c = 'E' then (readExponent exponent).map number else none

/-- The value of digits in a base up to sixteen. -/
def readDigits (base : Nat) (text : List Char) : Option Nat :=
  if text.isEmpty then none
  else
    text.foldlM
      (fun n c =>
        match Text.hexValue? c with
        | some v => if v < base then some (n * base + v) else none
        | none => none)
      0

/-- Reads a number from the text of a guest string; `none` when it is not a number. -/
def readNumber (text : String) : Option Double :=
  let unsigned (negative : Bool) (text : List Char) :=
    if text = "Infinity".toList then some (Double.infinity negative) else readDecimal negative text
  match trimGuest text.toList with
  | [] => some (Double.zero false)
  | '0' :: c :: digits =>
    if c = 'x' ∨ c = 'X' then (readDigits 16 digits).map fun n => Double.ofInt (Int.ofNat n)
    else if c = 'o' ∨ c = 'O' then (readDigits 8 digits).map fun n => Double.ofInt (Int.ofNat n)
    else if c = 'b' ∨ c = 'B' then (readDigits 2 digits).map fun n => Double.ofInt (Int.ofNat n)
    else readDecimal false ('0' :: c :: digits)
  | '-' :: rest => unsigned true rest
  | '+' :: rest => unsigned false rest
  | rest => unsigned false rest

end GuestLint.Number
