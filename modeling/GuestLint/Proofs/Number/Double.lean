import Mathlib.Algebra.Group.Nat.Defs
import GuestLint.Number.Double

/-!
# Integers among doubles

A double that is an integer has a mantissa which some power of two scales to it, and nothing about
it is rounded: it is the nearest double of its own value, and its own integer part. Every integer
of up to 53 bits is such a double.

* `view_normal`, `view_cases`: the sign, the exponent and the fraction in the bits.
* `IsNatural.ofRatio`: what a mantissa of 53 bits can hold is not rounded.
* `ofInt_of_integer?`, `trunc_of_integer?`: an integer double is what its value is rounded to.
* `integer?_ofInt`: small integers are doubles.
-/
namespace GuestLint.Double

variable {x y : Double} {negative : Bool} {m num : Nat} {e n : Int}

/-! ## Bits -/

theorem eq_of_bits (h : x.bits.toNat = y.bits.toNat) : x = y := by
  cases x
  cases y
  simpa [UInt64.toNat_inj] using h

/-- What bits stand for when their exponent is neither the least nor the greatest one. -/
theorem view_normal {E f : Nat} (hbits : x.bits.toNat = signBits negative + E * 2 ^ 52 + f)
    (hE : 1 ≤ E) (hE' : E ≤ 2046) (hf : f < 2 ^ 52) :
    x.view = .finite negative (f + 2 ^ 52) ((E : Int) - 1075) := by
  have hsign : signBits negative = if negative then 2 ^ 63 else 0 := rfl
  have hexponent : x.bits.toNat / 2 ^ 52 % 2 ^ 11 = E := by
    rw [hbits, hsign]
    split <;> omega
  have hfraction : x.bits.toNat % 2 ^ 52 = f := by
    rw [hbits, hsign]
    split <;> omega
  have hnegative : decide (2 ^ 63 ≤ x.bits.toNat) = negative := by
    rw [hbits, hsign]
    cases negative <;> simp <;> omega
  simp only [view, Nat.pow_eq, hexponent, hfraction, hnegative]
  rw [if_neg (by omega), if_neg (by omega)]
  rfl

/-- The bits of a finite number: a subnormal one, or one whose mantissa has 53 bits. -/
theorem view_cases (h : x.view = .finite negative m e) :
    (m < 2 ^ 52 ∧ e = -1074 ∧ x.bits.toNat = signBits negative + m) ∨
      ∃ E f : Nat, 1 ≤ E ∧ E ≤ 2046 ∧ f < 2 ^ 52 ∧ m = f + 2 ^ 52 ∧ e = (E : Int) - 1075 ∧
        x.bits.toNat = signBits negative + E * 2 ^ 52 + f := by
  have hlt : x.bits.toNat < 2 ^ 64 := x.bits.toNat_lt
  simp only [view, Nat.pow_eq] at h
  split at h
  · split at h <;> cases h
  · rename_i hfinite
    split at h
    · rename_i hzero
      injection h with hn hm he
      subst hn hm he
      left
      refine ⟨by omega, rfl, ?_⟩
      simp only [signBits, Nat.pow_eq, decide_eq_true_eq]
      split <;> omega
    · rename_i hzero
      injection h with hn hm he
      subst hn hm he
      right
      refine ⟨x.bits.toNat / 2 ^ 52 % 2 ^ 11, x.bits.toNat % 2 ^ 52, by omega, by omega, by omega,
        rfl, rfl, ?_⟩
      simp only [signBits, Nat.pow_eq, decide_eq_true_eq]
      split <;> omega

theorem toNat_assemble (negative : Bool) {E f : Nat} (hE : 1 ≤ E) (hE' : E ≤ 2046)
    (hf : f < 2 ^ 52) :
    (assemble negative (f + 2 ^ 52) ((E : Int) - 1075)).bits.toNat =
      signBits negative + E * 2 ^ 52 + f := by
  have hexponent : ((E : Int) - 1075 + 1075).toNat = E := by omega
  have hsign : signBits negative ≤ 2 ^ 63 := by cases negative <;> decide
  simp only [assemble, Nat.pow_eq, hexponent]
  rw [if_neg (Nat.not_lt.mpr (Nat.le_add_left ..)), Nat.add_sub_cancel, if_neg (by omega),
    UInt64.toNat_ofNat', Nat.mod_eq_of_lt (by omega), Nat.add_assoc]

/-! ## Natural numbers are not rounded -/

theorem roundDiv_mul (m : Nat) {d : Nat} (hd : 0 < d) : roundDiv (m * d) d = m := by
  have hq : m * d / d = m := Nat.mul_div_cancel m hd
  have hr : m * d % d = 0 := Nat.mul_mod_left m d
  simp only [roundDiv, hq, hr]
  rw [if_neg (by omega)]

/-- The natural number `n` is `m * 2 ^ e`. -/
def IsNatural (m : Nat) (e : Int) (n : Nat) : Prop :=
  n * 2 ^ (-e).toNat = m * 2 ^ e.toNat

/-- Of the two powers of two one is always one. -/
theorem isNatural_iff :
    IsNatural m e num ↔ if e < 0 then num * 2 ^ (-e).toNat = m else num = m * 2 ^ e.toNat := by
  rw [IsNatural]
  split
  · rename_i he
    have hpos : e.toNat = 0 := by omega
    rw [hpos, Nat.pow_zero, Nat.mul_one]
  · rename_i he
    have hneg : (-e).toNat = 0 := by omega
    rw [hneg, Nat.pow_zero, Nat.mul_one]

theorem log2_mul_two_pow {n : Nat} (hn : n ≠ 0) (k : Nat) : (n * 2 ^ k).log2 = n.log2 + k := by
  induction k with
  | zero => simp
  | succ k ih =>
    rw [Nat.pow_succ, ← Nat.mul_assoc, Nat.mul_comm _ 2,
      Nat.log2_two_mul (Nat.mul_ne_zero hn (Nat.ne_of_gt (Nat.two_pow_pos k))), ih, Nat.add_assoc]

namespace IsNatural

theorem ne_zero (h : IsNatural m e num) (hm : m ≠ 0) : num ≠ 0 := by
  rintro rfl
  have hpos : m * 2 ^ e.toNat ≠ 0 := Nat.mul_ne_zero hm (Nat.ne_of_gt (Nat.two_pow_pos _))
  rw [IsNatural, Nat.zero_mul] at h
  exact hpos h.symm

theorem eq_zero (h : IsNatural 0 e num) : num = 0 := by
  rw [IsNatural, Nat.zero_mul] at h
  exact (Nat.mul_eq_zero.mp h).resolve_right (Nat.ne_of_gt (Nat.two_pow_pos _))

/-- What is smaller than every normal number is less than one. -/
theorem eq_zero_of_subnormal (h : IsNatural m (-1074) num) (hm : m < 2 ^ 52) : num = 0 := by
  have hsmall : ∀ k, 52 < k → num * 2 ^ k = m → num = 0 := by
    intro k hk hvalue
    have hlt : 2 ^ 52 < 2 ^ k := Nat.pow_lt_pow_right (by decide) hk
    refine Nat.eq_zero_of_not_pos fun hpos => ?_
    have hle : 2 ^ k ≤ num * 2 ^ k := Nat.le_mul_of_pos_left _ hpos
    omega
  refine hsmall 1074 (by decide) ?_
  have hpower : (-(-1074) : Int).toNat = 1074 := rfl
  have hunit : (-1074 : Int).toNat = 0 := rfl
  rw [IsNatural, hpower, hunit, Nat.pow_zero, Nat.mul_one] at h
  exact h

theorem log2 (h : IsNatural m e num) (hm : 2 ^ 52 ≤ m) (hm' : m < 2 ^ 53) :
    (num.log2 : Int) = e + 52 := by
  have hm0 : m ≠ 0 := by omega
  have hmantissa : m.log2 = 52 := (Nat.log2_eq_iff hm0).mpr ⟨hm, hm'⟩
  have hlog := congrArg Nat.log2 h
  rw [log2_mul_two_pow (h.ne_zero hm0), log2_mul_two_pow hm0, hmantissa] at hlog
  omega

/-- With half the power of two the mantissa is twice as large. -/
theorem double (h : IsNatural m e num) : IsNatural (2 * m) (e - 1) num := by
  rw [IsNatural] at *
  rcases Int.lt_or_le 0 e with he | he
  · obtain ⟨k, hk⟩ : ∃ k, e.toNat = k + 1 := ⟨e.toNat - 1, by omega⟩
    have hneg : (-e).toNat = 0 := by omega
    have hneg' : (-(e - 1)).toNat = 0 := by omega
    have hpos : (e - 1).toNat = k := by omega
    rw [hneg, hk] at h
    rw [hneg', hpos, h, Nat.pow_succ, Nat.mul_left_comm, Nat.mul_comm 2 m, Nat.mul_assoc,
      Nat.mul_left_comm, Nat.mul_comm (2 ^ k)]
  · have hpos : e.toNat = 0 := by omega
    have hpos' : (e - 1).toNat = 0 := by omega
    have hneg : (-(e - 1)).toNat = (-e).toNat + 1 := by omega
    rw [hpos] at h
    rw [hpos', hneg, Nat.pow_succ, ← Nat.mul_assoc, h, Nat.mul_comm, Nat.mul_assoc]

theorem scaled (h : IsNatural m e num) : ∃ d, 0 < d ∧ scaled num 1 e = (m * d, d) := by
  rw [isNatural_iff] at h
  unfold Double.scaled
  split at h
  · rename_i he
    exact ⟨1, Nat.one_pos, by simp [he, h]⟩
  · rename_i he
    exact ⟨2 ^ e.toNat, Nat.two_pow_pos _, by simp [he, h]⟩

theorem exponentFor (h : IsNatural m e num) (hm : 2 ^ 52 ≤ m) (hm' : m < 2 ^ 53)
    (he : -1074 ≤ e) : exponentFor num 1 = e := by
  have hlog := h.log2 hm hm'
  have hone : Nat.log2 1 = 0 := by decide
  have hguess : Int.ofNat num.log2 - Int.ofNat (Nat.log2 1) - 53 = e - 1 := by
    simp only [hone, Int.ofNat_eq_natCast]
    omega
  obtain ⟨d, hd, hscaled⟩ := h.double.scaled
  simp only [Double.exponentFor, hguess, hscaled, Nat.pow_eq]
  rw [Nat.mul_div_cancel _ hd, if_pos (by omega), Int.sub_add_cancel, Int.max_eq_right he]

/-- A natural number that a mantissa of 53 bits can hold is not rounded. -/
theorem ofRatio (h : IsNatural m e num) (hm : 2 ^ 52 ≤ m) (hm' : m < 2 ^ 53)
    (he : -1074 ≤ e) (he' : e ≤ 971) (negative : Bool) :
    ofRatio negative num 1 = assemble negative m e := by
  obtain ⟨d, hd, hscaled⟩ := h.scaled
  simp only [Double.ofRatio, h.exponentFor hm hm' he, hscaled, roundDiv_mul m hd]
  rw [if_neg (h.ne_zero (by omega)), if_neg (by omega)]

end IsNatural

/-! ## Integers -/

/-- An integer with a sign in front of its magnitude. -/
def signed (negative : Bool) (n : Nat) : Int :=
  if negative then -Int.ofNat n else Int.ofNat n

theorem signed_zero (negative : Bool) : signed negative 0 = 0 := by
  cases negative <;> rfl

theorem integer?_of_view (hview : x.view = .finite negative m e) (h : IsNatural m e num) :
    x.integer? = some (signed negative num) := by
  rw [isNatural_iff] at h
  simp only [integer?, hview, Nat.pow_eq]
  split at h
  · rename_i he
    rw [if_pos he, ← h, if_pos (Nat.mul_mod_left ..), Nat.mul_div_cancel _ (Nat.two_pow_pos _)]
    rfl
  · rename_i he
    rw [if_neg he, ← h]
    rfl

theorem view_of_integer? (h : x.integer? = some n) :
    ∃ negative m e num, x.view = .finite negative m e ∧ IsNatural m e num ∧
      n = signed negative num := by
  cases hview : x.view with
  | nan => simp [integer?, hview] at h
  | infinite negative => simp [integer?, hview] at h
  | finite negative m e =>
    simp only [integer?, hview, Nat.pow_eq] at h
    split at h
    · rename_i he
      split at h
      · rename_i hdvd
        refine ⟨negative, m, e, m / 2 ^ (-e).toNat, rfl, ?_, (Option.some.inj h).symm⟩
        rw [isNatural_iff, if_pos he]
        exact Nat.div_mul_cancel (Nat.dvd_of_mod_eq_zero hdvd)
      · cases h
    · rename_i he
      refine ⟨negative, m, e, m * 2 ^ e.toNat, rfl, ?_, (Option.some.inj h).symm⟩
      rw [isNatural_iff, if_neg he]

theorem truncated_of_integer? (h : x.integer? = some n) : x.truncated = some n := by
  obtain ⟨negative, m, e, num, hview, hnum, rfl⟩ := view_of_integer? h
  rw [isNatural_iff] at hnum
  simp only [truncated, hview, Nat.pow_eq, signed]
  split at hnum
  · rename_i he
    rw [if_pos he, ← hnum, Nat.mul_div_cancel _ (Nat.two_pow_pos _)]
  · rename_i he
    rw [if_neg he, ← hnum]

/-- An integer is clamped into the range of 64 bits. -/
theorem toInt64_of_integer? (h : x.integer? = some n) :
    x.toInt64 = max (-0x8000000000000000) (min 0x7FFFFFFFFFFFFFFF n) := by
  obtain ⟨negative, m, e, num, hview, -, -⟩ := view_of_integer? h
  simp [toInt64, hview, truncated_of_integer? h]

/-- A nonzero integer has a mantissa of 53 bits. -/
theorem normal_of_integer? (h : x.integer? = some n) (hn : n ≠ 0) :
    ∃ negative, ∃ E f num : Nat, 1 ≤ E ∧ E ≤ 2046 ∧ f < 2 ^ 52 ∧
      x.bits.toNat = signBits negative + E * 2 ^ 52 + f ∧
      IsNatural (f + 2 ^ 52) ((E : Int) - 1075) num ∧ n = signed negative num := by
  obtain ⟨negative, m, e, num, hview, hnum, rfl⟩ := view_of_integer? h
  rcases view_cases hview with ⟨hm, rfl, -⟩ | ⟨E, f, hE, hE', hf, rfl, he, hbits⟩
  · have hzero : num = 0 := hnum.eq_zero_of_subnormal hm
    subst hzero
    cases negative <;> exact absurd rfl hn
  · exact ⟨negative, E, f, num, hE, hE', hf, hbits, he ▸ hnum, rfl⟩

theorem ofInt_signed (negative : Bool) (hnum : num ≠ 0) :
    ofInt (signed negative num) = ofRatio negative num 1 := by
  have hsign : decide (signed negative num < 0) = negative := by
    cases negative with
    | false => simp [signed]
    | true => simpa [signed] using Nat.pos_of_ne_zero hnum
  have habs : (signed negative num).natAbs = num := by
    cases negative <;> simp [signed]
  rw [ofInt, hsign, habs]

/-- A nonzero integer is the nearest double of itself. -/
theorem ofInt_of_integer? (h : x.integer? = some n) (hn : n ≠ 0) : ofInt n = x := by
  obtain ⟨negative, E, f, num, hE, hE', hf, hbits, hnum, rfl⟩ := normal_of_integer? h hn
  rw [ofInt_signed negative (hnum.ne_zero (by omega)),
    hnum.ofRatio (by omega) (by omega) (by omega) (by omega)]
  exact eq_of_bits ((toNat_assemble negative hE hE' hf).trans hbits.symm)

/-- There is nothing to a zero but its sign. -/
theorem zero_of_integer? (h : x.integer? = some 0) : zero x.isNegative = x := by
  obtain ⟨negative, m, e, num, hview, hnum, hzero⟩ := view_of_integer? h
  have hm : m = 0 := by
    refine Classical.byContradiction fun hm => hnum.ne_zero hm ?_
    cases negative <;> simp [signed] at hzero <;> omega
  subst hm
  rcases view_cases hview with ⟨-, -, hbits⟩ | ⟨E, f, -, -, -, hf, -, -⟩
  · have hsign : x.isNegative = negative := by
      rw [isNegative, hbits]
      cases negative <;> decide
    refine eq_of_bits ?_
    rw [hsign, hbits]
    cases negative <;> decide
  · omega

/-- What is an integer is its own integer part. -/
theorem trunc_of_integer? (h : x.integer? = some n) : x.trunc = x := by
  unfold trunc
  rw [truncated_of_integer? h]
  split
  · rename_i heq
    cases heq
    exact zero_of_integer? h
  · rename_i hn heq
    cases heq
    exact ofInt_of_integer? h fun hzero => hn (hzero ▸ rfl)
  · rename_i heq
    cases heq

/-- The mantissa and the exponent of a natural number that fits into 53 bits. -/
theorem normal_of_lt (hnum : num ≠ 0) (hlt : num < 2 ^ 53) :
    ∃ E f : Nat, 1 ≤ E ∧ E ≤ 2046 ∧ f < 2 ^ 52 ∧
      IsNatural (f + 2 ^ 52) ((E : Int) - 1075) num := by
  have hlow := Nat.log2_self_le hnum
  have hhigh := Nat.lt_log2_self (n := num)
  have hlog : num.log2 < 53 := (Nat.log2_lt hnum).mpr hlt
  have hscale : ∀ k, k + (52 - num.log2) = 52 → 2 ^ k * 2 ^ (52 - num.log2) = 2 ^ 52 := by
    intro k hk
    rw [← Nat.pow_add, hk]
  have hbelow : 2 ^ 52 ≤ num * 2 ^ (52 - num.log2) := by
    rw [← hscale num.log2 (by omega)]
    exact Nat.mul_le_mul_right _ hlow
  have habove : num * 2 ^ (52 - num.log2) < 2 ^ 53 := by
    have hstep := Nat.mul_lt_mul_of_pos_right hhigh (Nat.two_pow_pos (52 - num.log2))
    rw [Nat.pow_succ, Nat.mul_right_comm, hscale num.log2 (by omega)] at hstep
    exact hstep
  refine ⟨num.log2 + 1023, num * 2 ^ (52 - num.log2) - 2 ^ 52, by omega, by omega, by omega, ?_⟩
  have hneg : (-(((num.log2 + 1023 : Nat) : Int) - 1075)).toNat = 52 - num.log2 := by omega
  have hpos : (((num.log2 + 1023 : Nat) : Int) - 1075).toNat = 0 := by omega
  rw [IsNatural, hneg, hpos, Nat.sub_add_cancel hbelow, Nat.pow_zero, Nat.mul_one]

/-- Integers of up to 53 bits are doubles. -/
theorem integer?_ofInt (h : n.natAbs < 2 ^ 53) : (ofInt n).integer? = some n := by
  by_cases hn : n = 0
  · subst hn
    have hview : (ofInt 0).view = .finite false 0 (-1074) := by decide
    have hzero : IsNatural 0 (-1074) 0 := by rw [IsNatural, Nat.zero_mul, Nat.zero_mul]
    exact integer?_of_view hview hzero
  · have hnum : n.natAbs ≠ 0 := by omega
    obtain ⟨E, f, hE, hE', hf, hnatural⟩ := normal_of_lt hnum h
    have hsigned : signed (decide (n < 0)) n.natAbs = n := by
      simp only [signed, decide_eq_true_eq, Int.ofNat_eq_natCast]
      split <;> omega
    have hratio := hnatural.ofRatio (by omega) (by omega) (by omega) (by omega) (decide (n < 0))
    have hview := view_normal (toNat_assemble (decide (n < 0)) hE hE' hf) hE hE' hf
    rw [ofInt, hratio, integer?_of_view hview hnatural, hsigned]

end GuestLint.Double
