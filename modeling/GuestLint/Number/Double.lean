/-!
# Double precision numbers

A double is its 64 bits. All arithmetic on it is exact arithmetic on the integers that the bits
hold, so nothing here depends on how a machine computes.

* `view`: the number behind the bits, as a sign, a mantissa and a power of two.
* `ofRatio`: the nearest double of a fraction, where a tie goes to the even mantissa.
* `truncated`: the integer part.
-/
namespace GuestLint

structure Double where
  bits : UInt64
  deriving Repr, DecidableEq

namespace Double

/-- What the bits stand for. A finite number is `mantissa * 2 ^ exponent`, with a sign. -/
inductive View where
  | nan
  | infinite (negative : Bool)
  | finite (negative : Bool) (mantissa : Nat) (exponent : Int)
  deriving Repr, DecidableEq

def view (x : Double) : View :=
  let n := x.bits.toNat
  let negative := decide (Nat.pow 2 63 ≤ n)
  let exponent := n / Nat.pow 2 52 % Nat.pow 2 11
  let fraction := n % Nat.pow 2 52
  if exponent = 2047 then
    if fraction = 0 then .infinite negative else .nan
  else if exponent = 0 then .finite negative fraction (-1074)
  else .finite negative (fraction + Nat.pow 2 52) (Int.ofNat exponent - 1075)

/-- The bits of the sign. -/
def signBits (negative : Bool) : Nat :=
  if negative then Nat.pow 2 63 else 0

def nan : Double := ⟨0x7FF8000000000000⟩

def infinity (negative : Bool) : Double :=
  ⟨UInt64.ofNat (signBits negative + 2047 * Nat.pow 2 52)⟩

def zero (negative : Bool) : Double :=
  ⟨UInt64.ofNat (signBits negative)⟩

/-- Puts a rounded mantissa and its power of two together. A mantissa of `2 ^ 53` carries into the
exponent, and one that is too large for any finite number gives infinity. -/
def assemble (negative : Bool) (mantissa : Nat) (exponent : Int) : Double :=
  let magnitude :=
    if mantissa < Nat.pow 2 52 then mantissa
    else (exponent + 1075).toNat * Nat.pow 2 52 + (mantissa - Nat.pow 2 52)
  if 2047 * Nat.pow 2 52 ≤ magnitude then infinity negative
  else ⟨UInt64.ofNat (signBits negative + magnitude)⟩

/-- Rounds a quotient to the nearest integer, a tie to the even one. -/
def roundDiv (num den : Nat) : Nat :=
  let q := num / den
  let twice := 2 * (num % den)
  if den < twice ∨ (twice = den ∧ q % 2 = 1) then q + 1 else q

/-- `num * 2 ^ -e` over `den`, as a numerator and a denominator. -/
def scaled (num den : Nat) (e : Int) : Nat × Nat :=
  if e < 0 then (num * Nat.pow 2 (-e).toNat, den) else (num, den * Nat.pow 2 e.toNat)

/-- The power of two at which a fraction's mantissa has 53 bits, and no less than the least one. -/
def exponentFor (num den : Nat) : Int :=
  let guess : Int := Int.ofNat num.log2 - Int.ofNat den.log2 - 53
  let (n, d) := scaled num den guess
  max (-1074) (if Nat.pow 2 53 ≤ n / d then guess + 1 else guess)

/-- The nearest double of a fraction. -/
def ofRatio (negative : Bool) (num den : Nat) : Double :=
  if num = 0 then zero negative
  else
    let e := exponentFor num den
    let (n, d) := scaled num den e
    if 971 < e then infinity negative else assemble negative (roundDiv n d) e

/-- The fraction behind a finite number, without its sign. -/
def magnitude? (x : Double) : Option (Nat × Nat) :=
  match x.view with
  | .finite _ m e =>
    if e < 0 then some (m, Nat.pow 2 (-e).toNat) else some (m * Nat.pow 2 e.toNat, 1)
  | _ => none

/-- The rounded sum of two numbers that are finite and not negative; infinity otherwise. -/
def add (x y : Double) : Double :=
  match x.magnitude?, y.magnitude? with
  | some (a, b), some (c, d) => ofRatio false (a * d + c * b) (b * d)
  | _, _ => infinity false

/-- The rounded product of two numbers that are finite and not negative; infinity otherwise. -/
def mul (x y : Double) : Double :=
  match x.magnitude?, y.magnitude? with
  | some (a, b), some (c, d) => ofRatio false (a * c) (b * d)
  | _, _ => infinity false

/-- The rounded quotient of two numbers that are finite and not negative; infinity otherwise. -/
def div (x y : Double) : Double :=
  match x.magnitude?, y.magnitude? with
  | some (a, b), some (c, d) => ofRatio false (a * d) (b * c)
  | _, _ => infinity false

/-- The fraction that a finite number is, with a denominator that is not negative. -/
def fraction? (x : Double) : Option (Int × Nat) :=
  match x.view, x.magnitude? with
  | .finite negative _ _, some (n, d) => some (if negative then -Int.ofNat n else Int.ofNat n, d)
  | _, _ => none

/-- The rounded difference of two finite numbers; a NaN otherwise. -/
def sub (x y : Double) : Double :=
  match x.fraction?, y.fraction? with
  | some (a, b), some (c, d) =>
    let difference := a * Int.ofNat d - c * Int.ofNat b
    ofRatio (decide (difference < 0)) difference.natAbs (b * d)
  | _, _ => nan

/-- The number with the other sign. -/
def neg (x : Double) : Double :=
  ⟨x.bits ^^^ 0x8000000000000000⟩

/-- The nearest double of an integer. -/
def ofInt (n : Int) : Double :=
  ofRatio (decide (n < 0)) n.natAbs 1

/-- The nearest double of `digits * 10 ^ exponent`. Exponents far outside the range of doubles are
answered without computing the power. -/
def ofDecimal (negative : Bool) (digits : Nat) (exponent : Int) : Double :=
  if digits = 0 then zero negative
  else
    let size := exponent + Int.ofNat (Nat.toDigits 10 digits).length
    if 400 < size then infinity negative
    else if size < -400 then zero negative
    else if exponent < 0 then ofRatio negative digits (Nat.pow 10 (-exponent).toNat)
    else ofRatio negative (digits * Nat.pow 10 exponent.toNat) 1

/-- Whether two doubles are the same number; a NaN is no number and the zeros are one. -/
def same (x y : Double) : Bool :=
  match x.view, y.view with
  | .nan, _ => false
  | _, .nan => false
  | .finite _ 0 _, .finite _ 0 _ => true
  | a, b => a == b

/-- Whether a condition takes a number for true. -/
def isTruthy (x : Double) : Bool :=
  match x.view with
  | .nan => false
  | .finite _ m _ => m != 0
  | .infinite _ => true

/-- The integer part of a finite number. -/
def truncated (x : Double) : Option Int :=
  match x.view with
  | .finite negative m e =>
    let magnitude := if e < 0 then m / Nat.pow 2 (-e).toNat else m * Nat.pow 2 e.toNat
    some (if negative then -Int.ofNat magnitude else Int.ofNat magnitude)
  | _ => none

/-- The integer that a number is, when it is one. -/
def integer? (x : Double) : Option Int :=
  match x.view with
  | .finite negative m e =>
    if e < 0 then
      if m % Nat.pow 2 (-e).toNat = 0 then
        let magnitude := m / Nat.pow 2 (-e).toNat
        some (if negative then -Int.ofNat magnitude else Int.ofNat magnitude)
      else none
    else
      let magnitude := m * Nat.pow 2 e.toNat
      some (if negative then -Int.ofNat magnitude else Int.ofNat magnitude)
  | _ => none

/-- Whether the sign bit is set. -/
def isNegative (x : Double) : Bool :=
  decide (Nat.pow 2 63 ≤ x.bits.toNat)

/-- The integer part of a number with the number's sign, so that `-0.5` gives `-0`. -/
def trunc (x : Double) : Double :=
  match x.truncated with
  | some 0 => zero x.isNegative
  | some n => ofInt n
  | none => x

/-- Integers of a magnitude up to `2 ^ 53 - 1`: each is told apart from its neighbours. -/
def safeInteger? (x : Double) : Option Int :=
  match x.integer? with
  | some n => if n.natAbs < Nat.pow 2 53 then some n else none
  | none => none

/-- The integer part modulo `2 ^ 32`, as a number in the signed range; what is no number gives
zero. -/
def toInt32 (x : Double) : Int :=
  (x.truncated.getD 0).bmod 0x100000000

/-- The integer part modulo `2 ^ 8`, as a byte; what is no number gives zero. -/
def toByte (x : Double) : UInt8 :=
  UInt8.ofNat (x.toInt32 % 256).toNat

/-- The integer part clamped into the range of signed 64-bit integers; a NaN gives zero. -/
def toInt64 (x : Double) : Int :=
  match x.view with
  | .nan => 0
  | .infinite negative => if negative then -0x8000000000000000 else 0x7FFFFFFFFFFFFFFF
  | .finite .. => max (-0x8000000000000000) (min 0x7FFFFFFFFFFFFFFF (x.truncated.getD 0))

end Double
end GuestLint
