import GuestLint.Number.Notation
import GuestLint.Number.Reader
/-!
# Guest values

The values that guest programs compute with. Objects live in a heap and are named by their place
in it; every other value is data.

* `same`: whether two values are identical.
* `typeWord`: the word that a program sees for the type of a primitive value.
-/
namespace GuestLint.Guest

/-- The place of an object in the heap. -/
abbrev Ref := Nat

inductive Value where
  | undefined
  | null
  | boolean (b : Bool)
  | number (x : Double)
  | big (n : Int)
  | text (s : String)
  /-- A symbol is told apart from others by its number. -/
  | symbol (id : Nat) (description : String)
  | object (r : Ref)
  deriving Repr, DecidableEq, Inhabited

namespace Value

def ofInt (n : Int) : Value := .number (.ofInt n)

def ofNat (n : Nat) : Value := .ofInt (Int.ofNat n)

def ofChars (s : List Char) : Value := .text (String.ofList s)

/-- Whether the value is absent: `null` or `undefined`. -/
def isAbsent : Value → Bool
  | undefined | null => true
  | _ => false

/-- Whether two values are identical; numbers are compared as numbers. -/
def same : Value → Value → Bool
  | .number x, .number y => x.same y
  | .symbol a _, .symbol b _ => a == b
  | a, b => a == b

/-- Whether a condition takes the value for true. -/
def isTruthy : Value → Bool
  | undefined | null => false
  | boolean b => b
  | number x => x.isTruthy
  | big n => n != 0
  | text s => s != ""
  | symbol .. | object _ => true

/-- The word for the type of a value that is no object. -/
def typeWord : Value → String
  | undefined => "undefined"
  | null | object _ => "object"
  | boolean _ => "boolean"
  | number _ => "number"
  | big _ => "bigint"
  | text _ => "string"
  | symbol .. => "symbol"

/-- Whether a number is kept as a machine integer: no fraction, a range of 32 bits, no negative
zero. -/
def isSmallInteger (x : Double) : Bool :=
  match x.integer? with
  | some n => decide (-0x80000000 ≤ n) && decide (n < 0x80000000) && !(n == 0 && x.isNegative)
  | none => false

/-- The word that conversion errors use for a value that is no object. -/
def kindWord : Value → String
  | undefined => "undefined"
  | null => "null"
  | boolean _ => "bool"
  | number x => if isSmallInteger x then "int" else "float"
  | big _ => "big_int"
  | text _ => "string"
  | symbol .. => "symbol"
  | object _ => "object"

end Value

/-- The decimal text of an integer. -/
def integerText (n : Int) : String :=
  let digits := String.ofList (Text.digits 10 n.natAbs)
  if n < 0 then "-" ++ digits else digits

/-- The place that a property name stands for in a list: a canonical numeral below the greatest
32-bit number. -/
def indexOf? (name : String) : Option Nat :=
  let cs := name.toList
  if Text.isNumeral cs ∧ (cs = ['0'] ∨ cs.head? ≠ some '0') then
    let n := Text.numeralValue cs
    if n < Nat.pow 2 32 - 1 then some n else none
  else none

end GuestLint.Guest
