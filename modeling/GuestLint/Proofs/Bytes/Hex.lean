import GuestLint.Proofs.Bytes.Encoding

/-!
# How far hexadecimal digits are read

Hexadecimal digits are read in pairs of bytes, up to the first pair that is none. A digit is one
byte, and no byte of a character beyond ASCII is a digit, so this is the longest start of the text
that is made of whole pairs of digits.

* `ArePairs`, `Denotes`: whole pairs of digits, and the bytes that they denote.
* `decodePairs_stops`: where reading stops, told by the bytes of a text.
* `denotes_leadingPairs`: what is read, told by its characters.
* `Encoding.digits_read`: both together, and how what was read is written again.
-/
namespace GuestLint

namespace Hex

/-! ## Digits -/

/-- The hexadecimal digits of either case. -/
def isDigit (c : Char) : Bool :=
  ('0' ≤ c && c ≤ '9') || ('a' ≤ c && c ≤ 'f') || ('A' ≤ c && c ≤ 'F')

/-- Whether a text is made of whole pairs of digits. -/
def ArePairs (text : List Char) : Prop :=
  text.length % 2 = 0 ∧ ∀ c ∈ text, isDigit c = true

instance (text : List Char) : Decidable (ArePairs text) :=
  decidable_of_iff (text.length % 2 = 0 ∧ text.all isDigit = true) (by simp [ArePairs])

/-- The bytes that whole pairs of digits denote. -/
inductive Denotes : List Char → Bytes → Prop
  | nil : Denotes [] []
  | pair {hi lo : Char} {h l : Nat} {b : UInt8} {text : List Char} {bytes : Bytes}
    (hhi : Text.hexValue? hi = some h) (hlo : Text.hexValue? lo = some l)
    (hb : b.toNat = h * 16 + l) (hrest : Denotes text bytes) :
    Denotes (hi :: lo :: text) (b :: bytes)

/-- Whether bytes begin with those of two digits. -/
def StartsWithPair (bytes : Bytes) : Prop :=
  ∃ hi lo rest, isDigit hi = true ∧ isDigit lo = true ∧
    bytes = UInt8.ofNat hi.toNat :: UInt8.ofNat lo.toNat :: rest

theorem isSome_hexValue? (c : Char) : (Text.hexValue? c).isSome = isDigit c := by
  unfold Text.hexValue? isDigit
  grind

theorem isDigit_lt {c : Char} (h : isDigit c = true) : c.toNat < 128 := by
  simp only [isDigit, Bool.or_eq_true, Bool.and_eq_true, decide_eq_true_eq, Char.le_def,
    UInt32.le_iff_toNat_le] at h
  rcases h with (⟨-, h⟩ | ⟨-, h⟩) | ⟨-, h⟩
  all_goals exact Nat.lt_of_le_of_lt h (by decide)

/-- A digit is the one that its value is written as, in lower case. -/
theorem hexValue?_lower {c : Char} {n : Nat} (h : Text.hexValue? c = some n) :
    n < 16 ∧ c.toLower = Text.hexDigit n := by
  have hall : ∀ code < 128, (Text.hexValue? (Char.ofNat code)).all (fun n =>
      decide (n < 16 ∧ (Char.ofNat code).toLower = Text.hexDigit n)) = true := by
    decide
  have hdigit : isDigit c = true := by rw [← isSome_hexValue?, h]; rfl
  have hc := hall c.toNat (isDigit_lt hdigit)
  rw [Char.ofNat_toNat, h] at hc
  exact of_decide_eq_true hc

/-! ## Bytes -/

/-- The byte of a digit is read as its value. -/
theorem nibble?_digit {c : Char} (h : c.toNat < 128) :
    nibble? (UInt8.ofNat c.toNat) = Text.hexValue? c := by
  have hbyte : (UInt8.ofNat c.toNat).toNat = c.toNat := Utf8.toNat_ofNat_of_lt (by omega)
  rw [nibble?, if_pos (UInt8.lt_iff_toNat_lt.mpr (by rw [hbyte]; exact h)), hbyte,
    Char.ofNat_toNat]

/-- The bytes that are read as digits are those of digits. -/
theorem isSome_nibble?_iff {b : UInt8} :
    (nibble? b).isSome = true ↔ ∃ c, isDigit c = true ∧ b = UInt8.ofNat c.toNat := by
  constructor
  · intro h
    unfold nibble? at h
    split at h
    · exact ⟨Char.ofNat b.toNat, by rw [← isSome_hexValue?, h], by
        rw [Utf8.toNat_charOfNat, UInt8.ofNat_toNat]⟩
    · cases h
  · rintro ⟨c, hc, rfl⟩
    rw [nibble?_digit (isDigit_lt hc), isSome_hexValue?, hc]

theorem startsWithPair_iff {hi lo : UInt8} {rest : Bytes} :
    StartsWithPair (hi :: lo :: rest) ↔ (nibble? hi).isSome = true ∧ (nibble? lo).isSome = true := by
  rw [isSome_nibble?_iff, isSome_nibble?_iff]
  constructor
  · rintro ⟨c, d, rest', hc, hd, heq⟩
    cases heq
    exact ⟨⟨c, hc, rfl⟩, ⟨d, hd, rfl⟩⟩
  · rintro ⟨⟨c, hc, rfl⟩, ⟨d, hd, rfl⟩⟩
    exact ⟨c, d, rest, hc, hd, rfl⟩

theorem decodePairs_cons_pair {hi lo : UInt8} {rest : Bytes}
    (h : StartsWithPair (hi :: lo :: rest)) :
    ∃ b, decodePairs (hi :: lo :: rest) = b :: decodePairs rest := by
  obtain ⟨hhi, hlo⟩ := startsWithPair_iff.mp h
  obtain ⟨x, hx⟩ := Option.isSome_iff_exists.mp hhi
  obtain ⟨y, hy⟩ := Option.isSome_iff_exists.mp hlo
  exact ⟨_, by rw [decodePairs, hx, hy]⟩

theorem decodePairs_of_not_pair {bytes : Bytes} (h : ¬ StartsWithPair bytes) :
    decodePairs bytes = [] := by
  match bytes with
  | [] => rfl
  | [_] => rfl
  | hi :: lo :: rest =>
    rw [startsWithPair_iff] at h
    rw [decodePairs]
    cases hhi : nibble? hi with
    | none => rfl
    | some x =>
      cases hlo : nibble? lo with
      | none => rfl
      | some y => exact absurd ⟨by rw [hhi]; rfl, by rw [hlo]; rfl⟩ h

/-- Reading stops at the first pair that is none: every pair before is one of digits. -/
theorem decodePairs_stops (bytes : Bytes) :
    (∀ i < (decodePairs bytes).length, StartsWithPair (bytes.drop (2 * i))) ∧
      ¬ StartsWithPair (bytes.drop (2 * (decodePairs bytes).length)) := by
  induction hn : bytes.length using Nat.strongRecOn generalizing bytes with
  | ind n ih =>
    by_cases hpair : StartsWithPair bytes
    · obtain ⟨hi, lo, rest, -, -, rfl⟩ := id hpair
      obtain ⟨b, hb⟩ := decodePairs_cons_pair hpair
      obtain ⟨hbefore, hstop⟩ := ih rest.length (by simp at hn; omega) rest rfl
      rw [hb, List.length_cons]
      refine ⟨fun i hi => ?_, hstop⟩
      cases i with
      | zero => exact hpair
      | succ i => exact hbefore i (by omega)
    · rw [decodePairs_of_not_pair hpair]
      exact ⟨fun i hi => absurd hi (Nat.not_lt_zero i), hpair⟩

/-! ## Characters -/

/-- The longest start of a text that is made of whole pairs of digits. -/
def leadingPairs : List Char → List Char
  | hi :: lo :: rest => if isDigit hi && isDigit lo then hi :: lo :: leadingPairs rest else []
  | _ => []

theorem ArePairs.tail {hi lo : Char} {rest : List Char} (h : ArePairs (hi :: lo :: rest)) :
    ArePairs rest := by
  obtain ⟨heven, hdigits⟩ := h
  simp only [List.length_cons] at heven
  exact ⟨by omega, fun c hc => hdigits c (by simp [hc])⟩

theorem ArePairs.cons {hi lo : Char} {rest : List Char} (hhi : isDigit hi = true)
    (hlo : isDigit lo = true) (h : ArePairs rest) : ArePairs (hi :: lo :: rest) := by
  obtain ⟨heven, hdigits⟩ := h
  refine ⟨by simp only [List.length_cons]; omega, fun c hc => ?_⟩
  rcases List.mem_cons.mp hc with rfl | hc
  · exact hhi
  rcases List.mem_cons.mp hc with rfl | hc
  · exact hlo
  · exact hdigits c hc

theorem leadingPairs_append {front : List Char} (h : ArePairs front) (back : List Char) :
    leadingPairs (front ++ back) = front ++ leadingPairs back := by
  induction front using leadingPairs.induct with
  | case1 hi lo rest hdigits ih =>
    rw [List.cons_append, List.cons_append, leadingPairs, if_pos hdigits, ih h.tail]
    rfl
  | case2 hi lo rest hdigits =>
    exact absurd (by rw [h.2 hi (by simp), h.2 lo (by simp)]; rfl) hdigits
  | case3 front hshort =>
    match front with
    | [] => rfl
    | [_] => exact absurd h.1 (by simp)
    | hi :: lo :: rest => exact absurd rfl (hshort hi lo rest)

theorem ArePairs.leadingPairs_eq {text : List Char} (h : ArePairs text) :
    leadingPairs text = text := by
  have hwhole := leadingPairs_append h []
  rw [List.append_nil] at hwhole
  rw [hwhole]
  exact List.append_nil text

/-- The leading pairs are pairs, and stand in front. -/
theorem leadingPairs_split (text : List Char) :
    ArePairs (leadingPairs text) ∧ ∃ back, text = leadingPairs text ++ back := by
  induction text using leadingPairs.induct with
  | case1 hi lo rest hdigits ih =>
    obtain ⟨hpairs, back, hback⟩ := ih
    rw [leadingPairs, if_pos hdigits]
    rw [Bool.and_eq_true] at hdigits
    exact ⟨hpairs.cons hdigits.1 hdigits.2, back, by rw [List.cons_append, List.cons_append,
      ← hback]⟩
  | case2 hi lo rest hdigits =>
    rw [leadingPairs, if_neg hdigits]
    exact ⟨⟨rfl, by simp⟩, _, rfl⟩
  | case3 text hshort =>
    rw [leadingPairs]
    · exact ⟨⟨rfl, by simp⟩, _, rfl⟩
    · exact hshort

/-- Only a digit is written as the byte of a digit. -/
theorem eq_cons_of_encode {text : List Char} {c : Char} {bytes : Bytes} (hc : isDigit c = true)
    (h : text.flatMap String.utf8EncodeChar = UInt8.ofNat c.toNat :: bytes) :
    ∃ rest, text = c :: rest ∧ bytes = rest.flatMap String.utf8EncodeChar := by
  have hcode := isDigit_lt hc
  have hbyte : (UInt8.ofNat c.toNat).toNat = c.toNat := Utf8.toNat_ofNat_of_lt (by omega)
  cases text with
  | nil => cases h
  | cons d rest =>
    rw [List.flatMap_cons] at h
    rcases Utf8.encodeChar_cases d with ⟨hlow, hd⟩ | ⟨-, hne, hhigh⟩
    · rw [hd, List.singleton_append, List.cons.injEq] at h
      have hsame : d = c := by
        have hd' : (UInt8.ofNat d.toNat).toNat = d.toNat := Utf8.toNat_ofNat_of_lt (by omega)
        rw [← Char.ofNat_toNat d, ← hd', h.1, hbyte, Char.ofNat_toNat]
      exact ⟨rest, by rw [hsame], h.2.symm⟩
    · obtain ⟨first, more, hd⟩ := List.exists_cons_of_ne_nil hne
      rw [hd, List.cons_append, List.cons.injEq] at h
      have hfirst := hhigh first (by rw [hd]; exact List.mem_cons_self)
      rw [h.1, hbyte] at hfirst
      omega

theorem encode_digit {c : Char} (hc : isDigit c = true) :
    String.utf8EncodeChar c = [UInt8.ofNat c.toNat] :=
  Utf8.encodeChar_of_lt (isDigit_lt hc)

/-- The bytes of a text begin with a pair of digits when the text does. -/
theorem startsWithPair_encode {text : List Char} :
    StartsWithPair (text.flatMap String.utf8EncodeChar) ↔
      ∃ hi lo rest, text = hi :: lo :: rest ∧ isDigit hi = true ∧ isDigit lo = true := by
  constructor
  · rintro ⟨hi, lo, bytes, hhi, hlo, h⟩
    obtain ⟨back, rfl, hback⟩ := eq_cons_of_encode hhi h
    obtain ⟨rest, rfl, -⟩ := eq_cons_of_encode hlo hback.symm
    exact ⟨hi, lo, rest, rfl, hhi, hlo⟩
  · rintro ⟨hi, lo, rest, rfl, hhi, hlo⟩
    refine ⟨hi, lo, rest.flatMap String.utf8EncodeChar, hhi, hlo, ?_⟩
    rw [List.flatMap_cons, List.flatMap_cons, encode_digit hhi, encode_digit hlo]
    rfl

/-- What is read of a text are the bytes that its leading pairs denote. -/
theorem denotes_leadingPairs (text : List Char) :
    Denotes (leadingPairs text) (decodePairs (text.flatMap String.utf8EncodeChar)) := by
  induction text using leadingPairs.induct with
  | case1 hi lo rest hdigits ih =>
    rw [leadingPairs, if_pos hdigits, List.flatMap_cons, List.flatMap_cons]
    rw [Bool.and_eq_true] at hdigits
    obtain ⟨hhi, hlo⟩ := hdigits
    obtain ⟨h, hh⟩ := Option.isSome_iff_exists.mp ((isSome_hexValue? hi).trans hhi)
    obtain ⟨l, hl⟩ := Option.isSome_iff_exists.mp ((isSome_hexValue? lo).trans hlo)
    have hvalue := (hexValue?_lower hh).1
    have hvalue' := (hexValue?_lower hl).1
    rw [encode_digit hhi, encode_digit hlo, List.singleton_append, List.singleton_append,
      decodePairs, nibble?_digit (isDigit_lt hhi), nibble?_digit (isDigit_lt hlo), hh, hl]
    exact .pair hh hl (Utf8.toNat_ofNat_of_lt (by omega)) ih
  | case2 hi lo rest hdigits =>
    rw [leadingPairs, if_neg hdigits, decodePairs_of_not_pair]
    · exact .nil
    · rw [startsWithPair_encode]
      rintro ⟨hi', lo', rest', heq, hhi, hlo⟩
      cases heq
      exact hdigits (by rw [hhi, hlo]; rfl)
  | case3 text hshort =>
    rw [leadingPairs, decodePairs_of_not_pair]
    · exact .nil
    · rw [startsWithPair_encode]
      rintro ⟨hi, lo, rest, rfl, -, -⟩
      exact hshort hi lo rest rfl
    · exact hshort

/-- Digits denote one sequence of bytes. -/
theorem Denotes.unique {text : List Char} {bytes bytes' : Bytes} (h : Denotes text bytes)
    (h' : Denotes text bytes') : bytes = bytes' := by
  induction h generalizing bytes' with
  | nil =>
    cases h'
    rfl
  | pair hhi hlo hb _ ih =>
    cases h' with
    | pair hhi' hlo' hb' hrest' =>
      cases hhi.symm.trans hhi'
      cases hlo.symm.trans hlo'
      rw [ih hrest', UInt8.toNat_inj.mp (hb.trans hb'.symm)]

/-- Bytes are written as the digits that denote them, in lower case. -/
theorem Denotes.encode_eq {text : List Char} {bytes : Bytes} (h : Denotes text bytes) :
    encode bytes = String.ofList (Text.asciiLower text) := by
  unfold encode
  congr 1
  induction h with
  | nil => rfl
  | @pair hi lo h l b text bytes hhi hlo hb _ ih =>
    obtain ⟨hh, hhiLower⟩ := hexValue?_lower hhi
    obtain ⟨hl, hloLower⟩ := hexValue?_lower hlo
    have hhigh : b.toNat / 16 = h := by omega
    have hlow : b.toNat % 16 = l := by omega
    rw [List.flatMap_cons, ih, digitsOf, hhigh, hlow, ← hhiLower, ← hloLower]
    rfl

/-- What is read of a text. `front` is the longest start of it that is made of whole pairs of
digits, and the bytes are those that `front` denotes; of the pairs of bytes of the text they are
the ones before the first that is not two digits. -/
structure Read (text : String) (front back : List Char) (bytes : Bytes) : Prop where
  parts : text.toList = front ++ back
  pairs : ArePairs front
  longest : ∀ longer rest, text.toList = longer ++ rest → ArePairs longer →
    longer.length ≤ front.length
  denoted : Denotes front bytes
  before : ∀ i < bytes.length, StartsWithPair ((Utf8.encode text).drop (2 * i))
  stops : ¬ StartsWithPair ((Utf8.encode text).drop (2 * bytes.length))

theorem read_decode (text : String) :
    ∃ back, Read text (leadingPairs text.toList) back (decode text) := by
  obtain ⟨hpairs, back, hback⟩ := leadingPairs_split text.toList
  obtain ⟨hbefore, hstops⟩ := decodePairs_stops (Utf8.encode text)
  refine ⟨back, hback, hpairs, fun longer rest htext hlonger => ?_, denotes_leadingPairs text.toList,
    hbefore, hstops⟩
  rw [htext, leadingPairs_append hlonger, List.length_append]
  exact Nat.le_add_right _ _

end Hex

namespace Encoding

open Hex (ArePairs Read isDigit leadingPairs)

/-- **Digits that are read.** A text is read as the longest start of it that is made of whole pairs
of hexadecimal digits, in either case, and what was read is written as that start in lower case.
So a text of whole pairs is written as itself in lower case, and one digit behind whole pairs is
dropped. -/
theorem digits_read (text : String) :
    (∃ front back, Read text front back (hex.encode text) ∧
      hex.decode (hex.encode text) = String.ofList (Text.asciiLower front)) ∧
    (ArePairs text.toList →
      hex.decode (hex.encode text) = String.ofList (Text.asciiLower text.toList)) ∧
    (∀ digits last, text.toList = digits ++ [last] → ArePairs digits → isDigit last = true →
      hex.encode text = hex.encode (String.ofList digits)) := by
  have hdenoted := Hex.denotes_leadingPairs text.toList
  have hwritten : hex.decode (hex.encode text) =
      String.ofList (Text.asciiLower (leadingPairs text.toList)) := hdenoted.encode_eq
  obtain ⟨back, hread⟩ := Hex.read_decode text
  refine ⟨⟨_, back, hread, hwritten⟩, fun hpairs => ?_, fun digits last htext hdigits _ => ?_⟩
  · rw [hwritten, hpairs.leadingPairs_eq]
  · have hfront : leadingPairs text.toList = digits := by
      rw [htext, Hex.leadingPairs_append hdigits]
      exact List.append_nil digits
    have hdigitsDenoted := Hex.denotes_leadingPairs digits
    rw [hdigits.leadingPairs_eq] at hdigitsDenoted
    rw [hfront] at hdenoted
    show Hex.decodePairs (text.toList.flatMap _) =
      Hex.decodePairs ((String.ofList digits).toList.flatMap _)
    rw [String.toList_ofList]
    exact hdenoted.unique hdigitsDenoted

/-- Digits of both cases, and one digit too many behind them. -/
theorem digits_read_cases :
    ArePairs "4aFB".toList ∧ hex.decode (hex.encode "4aFB") = "4afb" ∧
    "4aFBc".toList = "4aFB".toList ++ ['c'] ∧ isDigit 'c' = true ∧
    hex.encode "4aFBc" = [0x4A, 0xFB] := by
  have hpairs : ArePairs "4aFB".toList := by decide
  obtain ⟨-, hwritten, -⟩ := digits_read "4aFB"
  obtain ⟨-, -, hdropped⟩ := digits_read "4aFBc"
  refine ⟨hpairs, hwritten hpairs, rfl, rfl, ?_⟩
  rw [hdropped "4aFB".toList 'c' rfl hpairs rfl]
  decide

/-- A digit and the first byte of another character are no pair. -/
example : hex.encode "0aFé11" = [0x0A] := by decide

end Encoding
end GuestLint
