import GuestLint.Text.Basic
import GuestLint.Number.Shortest
/-!
# Written numbers

How the digits of a number are laid out. A `Layout` says where positional notation ends and how an
exponent is written; `write` applies it to the shortest digits of a double.

* `guestLayout`: the numbers of guest programs.
* `jsonLayout`: floating point numbers in messages about JSON values.
* `plainLayout`: no exponent at all.
-/
namespace GuestLint.Number

/-- The decisions of a number format. The point stands behind `p` digits, counted from the first
digit; `p` may be negative or larger than the number of digits. -/
structure Layout where
  /-- Positional notation is used for `lowest < p` … -/
  lowest : Option Int
  /-- … and `p ≤ highest`. -/
  highest : Option Int
  /-- Whether an integer in positional notation ends in `.0`. -/
  keepsFraction : Bool

/-- Positional from `1e-6` to below `1e21`. -/
def guestLayout : Layout := ⟨some (-6), some 21, false⟩

/-- Positional from `1e-5` to below `1e16`, and integers are written with a fraction. -/
def jsonLayout : Layout := ⟨some (-5), some 16, true⟩

def plainLayout : Layout := ⟨none, none, false⟩

def inRange (lowest highest : Option Int) (p : Int) : Bool :=
  (match lowest with | some l => l < p | none => true) &&
    (match highest with | some h => p ≤ h | none => true)

/-- The positional form of digits with the point behind the `p`-th. -/
def positional (layout : Layout) (digits : List Char) (p : Int) : List Char :=
  if p ≤ 0 then '0' :: '.' :: (List.replicate (-p).toNat '0' ++ digits)
  else
    let k := p.toNat
    if digits.length ≤ k then
      digits ++ List.replicate (k - digits.length) '0' ++
        (if layout.keepsFraction then ['.', '0'] else [])
    else digits.take k ++ '.' :: digits.drop k

/-- The form with an exponent: one digit before the point, and a signed exponent. -/
def exponential (digits : List Char) (p : Int) : List Char :=
  let e := p - 1
  let exponent := (if e < 0 then '-' else '+') :: (Text.digits 10 e.natAbs)
  match digits with
  | [] => exponent
  | [d] => d :: 'e' :: exponent
  | d :: rest => d :: '.' :: (rest ++ 'e' :: exponent)

/-- Lays out a positive number `m * 2 ^ q`. -/
def layOut (layout : Layout) (m : Nat) (q : Int) : List Char :=
  let (d, k) := Shortest.decimalOf m q
  let digits := Text.digits 10 d
  let p := k + Int.ofNat digits.length
  if inRange layout.lowest layout.highest p then positional layout digits p
  else exponential digits p

/-- The text of zero. -/
def zeroText (layout : Layout) : List Char :=
  if layout.keepsFraction then ['0', '.', '0'] else ['0']

/-- The text of a double, with a minus sign for every negative one, zero included. -/
def write (layout : Layout) (x : Double) : String :=
  match x.view with
  | .nan => "NaN"
  | .infinite negative => if negative then "-Infinity" else "Infinity"
  | .finite negative m q =>
    let magnitude := if m = 0 then zeroText layout else layOut layout m q
    String.ofList (if negative then '-' :: magnitude else magnitude)

/-- The text of a number in guest programs, where zero has no sign. -/
def guestText (x : Double) : String :=
  match x.view with
  | .finite _ 0 _ => "0"
  | _ => write guestLayout x

/-- The text that numeric placeholders put: integers below `10 ^ 21` as 64-bit integers, all other
numbers in full. -/
def placeholderText (x : Double) : String :=
  match x.view with
  | .nan => "NaN"
  | .infinite negative => if negative then "-Infinity" else "Infinity"
  | .finite .. =>
    match x.integer? with
    | some n => if n.natAbs < Nat.pow 10 21 then toString x.toInt64 else write plainLayout x
    | none => write plainLayout x

end GuestLint.Number
