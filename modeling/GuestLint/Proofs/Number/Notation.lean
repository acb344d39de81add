import GuestLint.Number.Notation
import GuestLint.Proofs.Number.Double
import GuestLint.Proofs.Text.Basic

/-!
# Integers in messages

A numeric placeholder writes an integer below `10 ^ 21` by way of a signed 64-bit integer. What is
within its range is written exactly, and everything beyond is written as the end of the range.

* `Numeral.unique`, `numeral_toString`: a numeral has one value, and an integer is written as one.
* `placeholderText_of_integer?`: the numeral that is written for an integer.
-/
namespace GuestLint.Number

/-! ## Numerals -/

/-- A text is a decimal numeral of an integer: digits, behind a minus sign or not. -/
inductive Numeral : List Char → Int → Prop
  | natural {digits} (h : Text.isNumeral digits = true) :
      Numeral digits (Text.numeralValue digits)
  | negative {digits} (h : Text.isNumeral digits = true) :
      Numeral ('-' :: digits) (-(Text.numeralValue digits : Int))

theorem not_isNumeral_minus (digits : List Char) : Text.isNumeral ('-' :: digits) ≠ true := by
  intro h
  have hdigit := (Text.isNumeral_iff.mp h).2 '-' List.mem_cons_self
  contradiction

/-- A numeral has one value. -/
theorem Numeral.unique {text : List Char} {a b : Int} (ha : Numeral text a) (hb : Numeral text b) :
    a = b := by
  cases ha with
  | natural h =>
    cases hb with
    | natural => rfl
    | negative => exact absurd h (not_isNumeral_minus _)
  | negative h =>
    cases hb with
    | natural h' => exact absurd h' (not_isNumeral_minus _)
    | negative => rfl

theorem isNumeral_toDigits (n : Nat) : Text.isNumeral (Nat.toDigits 10 n) = true :=
  Text.isNumeral_iff.mpr ⟨Nat.toDigits_ne_nil, fun _ => Text.isDigit_digits⟩

theorem numeralValue_toDigits (n : Nat) : Text.numeralValue (Nat.toDigits 10 n) = n := by
  rw [Text.numeralValue_eq, Nat.ofDigitChars_ten_toDigits]

theorem numeral_toString (n : Int) : Numeral (toString n).toList n := by
  cases n with
  | ofNat n =>
    have htext : (toString (Int.ofNat n)).toList = Nat.toDigits 10 n := String.toList_ofList
    have h := Numeral.natural (isNumeral_toDigits n)
    rw [numeralValue_toDigits] at h
    exact htext ▸ h
  | negSucc n =>
    have h := Numeral.negative (isNumeral_toDigits (n + 1))
    rw [numeralValue_toDigits] at h
    exact Text.toList_negSucc n ▸ h

/-! ## The range of placeholders -/

/-- The nearest signed 64-bit integer. -/
def clamped (n : Int) : Int := max (-0x8000000000000000) (min 0x7FFFFFFFFFFFFFFF n)

theorem clamped_eq_self_iff {n : Int} :
    clamped n = n ↔ -0x8000000000000000 ≤ n ∧ n ≤ 0x7FFFFFFFFFFFFFFF := by
  unfold clamped
  omega

/-- Two integers are clamped to the same one when both lie beyond the same end of the range. -/
theorem clamped_eq_iff {n k : Int} :
    clamped n = clamped k ↔ n = k ∨ (0x7FFFFFFFFFFFFFFF ≤ n ∧ 0x7FFFFFFFFFFFFFFF ≤ k) ∨
      (n ≤ -0x8000000000000000 ∧ k ≤ -0x8000000000000000) := by
  unfold clamped
  omega

/-- An integer below `10 ^ 21` is written as the nearest signed 64-bit integer. -/
theorem placeholderText_of_integer? {x : Double} {n : Int} (h : x.integer? = some n)
    (hn : n.natAbs < 10 ^ 21) : placeholderText x = toString (clamped n) := by
  obtain ⟨negative, m, e, -, hview, -, -⟩ := Double.view_of_integer? h
  simp only [placeholderText, hview, h, Nat.pow_eq]
  rw [if_pos hn, Double.toInt64_of_integer? h]
  rfl

end GuestLint.Number
