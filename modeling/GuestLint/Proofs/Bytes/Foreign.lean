import GuestLint.Proofs.Bytes.Encoding

/-!
# Characters that base 64 cannot read

A text in base 64 may hold characters that are no letters of the alphabets, and its last letter may
be one that fills no byte. Blanks and padding are passed over wherever they stand. Everything else
spoils the whole text: one foreign character, or a letter too many, and no byte is read at all.

* `letters`, `wholeGroups`: what could be read of a text.
* `decode?_spoilt`: a text with a foreign character, or with a letter too many, is not read.
* `decode?_wholeGroups`: what could be read of a text has bytes as soon as it has two letters.
* `Encoding.foreign_ignored_iff`: which texts are read as what could be read of them, and which
  characters may be put in anywhere.
* `Encoding.foreign_spoils`: a text that loses all its bytes to one character.
-/
namespace GuestLint

namespace Base64

/-! ## Letters -/

/-- The letters of both alphabets. -/
def isLetter (c : Char) : Bool :=
  ('A' ≤ c && c ≤ 'Z') || ('a' ≤ c && c ≤ 'z') || ('0' ≤ c && c ≤ '9') || c == '+' || c == '/' ||
    c == '-' || c == '_'

/-- A text without what is no letter. -/
def letters (text : List Char) : List Char := text.filter isLetter

/-- Letters without a last one that fills no byte. -/
def wholeGroups (letters : List Char) : List Char :=
  if letters.length % 4 = 1 then letters.dropLast else letters

/-- A text that is made of letters, blanks and padding, with no letter too many. -/
def IsClean (text : List Char) : Prop :=
  (∀ c ∈ text, isLetter c = true ∨ isSkipped c = true) ∧ (letters text).length % 4 ≠ 1

instance (text : List Char) : Decidable (IsClean text) :=
  decidable_of_iff ((text.all fun c => isLetter c || isSkipped c) = true ∧
    (letters text).length % 4 ≠ 1) (by simp [IsClean])

/-- The characters that have a value are the letters. -/
theorem isSome_value? (c : Char) : (value? c).isSome = isLetter c := by
  unfold value? isLetter
  grind

theorem isLetter_lt {c : Char} (h : isLetter c = true) : c.toNat < 128 := by
  simp only [isLetter, Bool.or_eq_true, Bool.and_eq_true, decide_eq_true_eq, beq_iff_eq,
    Char.le_def, UInt32.le_iff_toNat_le] at h
  rcases h with (((((⟨-, h⟩ | ⟨-, h⟩) | ⟨-, h⟩) | rfl) | rfl) | rfl) | rfl
  · exact Nat.lt_of_le_of_lt h (by decide)
  · exact Nat.lt_of_le_of_lt h (by decide)
  · exact Nat.lt_of_le_of_lt h (by decide)
  all_goals decide

/-- No letter is passed over. -/
theorem isSkipped_of_isLetter {c : Char} (h : isLetter c = true) : isSkipped c = false := by
  have hall : ∀ n < 128, isLetter (Char.ofNat n) = true → isSkipped (Char.ofNat n) = false := by
    decide
  have hc := hall c.toNat (isLetter_lt h)
  rw [Char.ofNat_toNat] at hc
  exact hc h

/-! ## What is read -/

/-- Letters have values, one each. -/
theorem values?_letters {text : List Char} (h : ∀ c ∈ text, isLetter c = true) :
    ∃ values, values? text = some values ∧ values.length = text.length := by
  induction text with
  | nil => exact ⟨[], rfl, rfl⟩
  | cons c text ih =>
    obtain ⟨values, hvalues, hlength⟩ := ih fun d hd => h d (List.mem_cons_of_mem c hd)
    obtain ⟨v, hv⟩ := Option.isSome_iff_exists.mp
      ((isSome_value? c).trans (h c List.mem_cons_self))
    exact ⟨v :: values, by rw [values?, hv, hvalues]; rfl, congrArg (· + 1) hlength⟩

/-- One character without a value leaves the whole text without values. -/
theorem values?_foreign {text : List Char} {c : Char} (hc : c ∈ text)
    (hforeign : isLetter c = false) : values? text = none := by
  have hnone : value? c = none := by
    rw [← Option.isNone_iff_eq_none, ← Option.not_isSome, isSome_value?, hforeign]
    rfl
  induction text with
  | nil => cases hc
  | cons d text ih =>
    rw [values?]
    rcases List.mem_cons.mp hc with rfl | hc
    · rw [hnone]
      rfl
    · rw [ih hc]
      cases value? d <;> rfl

/-- Sextets are joined unless one is left over; then they give bytes as soon as there are any. -/
theorem joinSextets_cases (values : List Nat) :
    (values.length % 4 = 1 ∧ joinSextets values = none) ∨
      values.length % 4 ≠ 1 ∧ ∃ bytes, joinSextets values = some bytes ∧
        (bytes = [] ↔ values = []) := by
  induction values using joinSextets.induct with
  | case1 a b c d rest ih =>
    have hlength : (a :: b :: c :: d :: rest).length % 4 = rest.length % 4 := by
      simp only [List.length_cons]
      omega
    rw [hlength, joinSextets]
    rcases ih with ⟨hmod, hnone⟩ | ⟨hmod, bytes, hsome, -⟩
    · exact .inl ⟨hmod, by rw [hnone]; rfl⟩
    · exact .inr ⟨hmod, _, by rw [hsome]; rfl, by simp⟩
  | case2 a b c => exact .inr ⟨by simp, _, rfl, by simp⟩
  | case3 a b => exact .inr ⟨by simp, _, rfl, by simp⟩
  | case4 a => exact .inl ⟨rfl, rfl⟩
  | case5 => exact .inr ⟨by decide, _, rfl, by simp⟩

/-- Where all that is not passed over is a letter, the letters are read. -/
theorem filter_eq_letters {text : List Char}
    (h : ∀ c ∈ text, isLetter c = true ∨ isSkipped c = true) :
    text.filter (fun c => !isSkipped c) = letters text := by
  refine List.filter_congr fun c hc => ?_
  rcases h c hc with hletter | hskipped
  · rw [hletter, isSkipped_of_isLetter hletter]
    rfl
  · cases hletter : isLetter c with
    | false => rw [hskipped]; rfl
    | true => cases (isSkipped_of_isLetter hletter).symm.trans hskipped

theorem isLetter_of_mem {text : List Char} {c : Char} (hc : c ∈ letters text) :
    isLetter c = true :=
  (List.mem_filter.mp hc).2

theorem letters_eq_self {text : List Char} (h : ∀ c ∈ text, isLetter c = true) :
    letters text = text :=
  List.filter_eq_self.mpr h

theorem decode?_eq (text : List Char) :
    decode? (String.ofList text) =
      values? (text.filter fun c => !isSkipped c) >>= joinSextets := by
  rw [decode?, String.toList_ofList]

/-- Letters alone are read unless there is one too many. -/
theorem decode?_letters {text : List Char} (h : ∀ c ∈ text, isLetter c = true) :
    (text.length % 4 = 1 ∧ decode? (String.ofList text) = none) ∨
      text.length % 4 ≠ 1 ∧ ∃ bytes, decode? (String.ofList text) = some bytes ∧
        (bytes = [] ↔ text = []) := by
  obtain ⟨values, hvalues, hlength⟩ := values?_letters h
  have hread : decode? (String.ofList text) = joinSextets values := by
    rw [decode?_eq, filter_eq_letters fun c hc => .inl (h c hc), letters_eq_self h, hvalues]
    rfl
  rw [hread, ← hlength, ← List.length_eq_zero_iff (l := text), ← hlength, List.length_eq_zero_iff]
  exact joinSextets_cases values

/-- A text without foreign characters is read as its letters. -/
theorem decode?_readable {text : List Char}
    (h : ∀ c ∈ text, isLetter c = true ∨ isSkipped c = true) :
    decode? (String.ofList text) = decode? (String.ofList (letters text)) := by
  rw [decode?_eq, decode?_eq, filter_eq_letters h,
    filter_eq_letters fun c hc => .inl (isLetter_of_mem hc),
    letters_eq_self fun c hc => isLetter_of_mem hc]

/-- One foreign character, or a letter too many, and nothing is read. -/
theorem decode?_spoilt {text : List Char} (h : ¬ IsClean text) :
    decode? (String.ofList text) = none := by
  by_cases hreadable : ∀ c ∈ text, isLetter c = true ∨ isSkipped c = true
  · have hone : (letters text).length % 4 = 1 :=
      Classical.not_not.mp fun hone => h ⟨hreadable, hone⟩
    have hletters : ∀ c ∈ letters text, isLetter c = true := fun c hc => isLetter_of_mem hc
    rw [decode?_readable hreadable]
    rcases decode?_letters hletters with ⟨-, hnone⟩ | ⟨hwhole, -⟩
    · exact hnone
    · exact absurd hone hwhole
  · simp only [Classical.not_forall, not_or] at hreadable
    obtain ⟨c, hc, hletter, hskipped⟩ := hreadable
    have hmem : c ∈ text.filter fun c => !isSkipped c :=
      List.mem_filter.mpr ⟨hc, by simp [Bool.eq_false_iff.mpr hskipped]⟩
    rw [decode?_eq, values?_foreign hmem (Bool.eq_false_iff.mpr hletter)]
    rfl

theorem wholeGroups_sublist (letters : List Char) : (wholeGroups letters).Sublist letters := by
  unfold wholeGroups
  split
  · exact List.dropLast_sublist letters
  · exact List.Sublist.refl letters

theorem wholeGroups_length (letters : List Char) :
    (wholeGroups letters).length % 4 ≠ 1 ∧ (wholeGroups letters = [] ↔ letters.length < 2) := by
  unfold wholeGroups
  rw [← List.length_eq_zero_iff]
  split
  · rw [List.length_dropLast]
    omega
  · omega

/-- What could be read of a text has bytes as soon as it has two letters. -/
theorem decode?_wholeGroups (text : List Char) :
    ∃ bytes, decode? (String.ofList (wholeGroups (letters text))) = some bytes ∧
      (bytes = [] ↔ (letters text).length < 2) := by
  obtain ⟨hwhole, hempty⟩ := wholeGroups_length (letters text)
  have hletters : ∀ c ∈ wholeGroups (letters text), isLetter c = true := fun c hc =>
    isLetter_of_mem ((wholeGroups_sublist _).subset hc)
  rcases decode?_letters hletters with ⟨hone, -⟩ | ⟨-, bytes, hread, hbytes⟩
  · exact absurd hone hwhole
  · exact ⟨bytes, hread, hbytes.trans hempty⟩

end Base64

/-! ## Encodings -/

namespace Encoding

open Base64

theorem IsBase64.encode_eq {e : Encoding} (he : e.IsBase64) (text : String) :
    e.encode text = (Base64.decode? text).getD [] := by
  rcases he with rfl | rfl <;> rfl

/-- **Foreign characters.** A text is read as what could be read of it, its letters in whole groups,
if and only if it is made of letters, blanks and padding with no letter too many, or has fewer than
two letters; a text that is not so made has no bytes at all. And a character that is no letter may
be put into a text, wherever that is, exactly when it is a blank or padding, or there was nothing to
lose. -/
theorem foreign_ignored_iff {e : Encoding} (he : e.IsBase64) (text : String) :
    (e.encode text = e.encode (String.ofList (wholeGroups (letters text.toList))) ↔
      IsClean text.toList ∨ (letters text.toList).length < 2) ∧
    (¬ IsClean text.toList → e.encode text = []) ∧
    ∀ before after c, text.toList = before ++ after → isLetter c = false →
      (e.encode (String.ofList (before ++ c :: after)) = e.encode text ↔
        isSkipped c = true ∨ e.encode text = []) := by
  have hspoilt : ∀ {chars : List Char}, ¬ IsClean chars → e.encode (String.ofList chars) = [] := by
    intro chars hchars
    rw [he.encode_eq, decode?_spoilt hchars]
    rfl
  refine ⟨?_, fun hclean => ?_, fun before after c htext hletter => ?_⟩
  · obtain ⟨bytes, hread, hbytes⟩ := decode?_wholeGroups text.toList
    have hwhole : e.encode (String.ofList (wholeGroups (letters text.toList))) = bytes := by
      rw [he.encode_eq, hread]
      rfl
    rw [hwhole]
    by_cases hclean : IsClean text.toList
    · refine iff_of_true ?_ (.inl hclean)
      have hsame : wholeGroups (letters text.toList) = letters text.toList := if_neg hclean.2
      rw [← hwhole, hsame, he.encode_eq, he.encode_eq, ← decode?_readable hclean.1,
        String.ofList_toList]
    · rw [← String.ofList_toList (s := text), hspoilt hclean, String.toList_ofList,
        or_iff_right hclean, ← hbytes, eq_comm]
  · rw [← String.ofList_toList (s := text)]
    exact hspoilt hclean
  · cases hskipped : isSkipped c with
    | true =>
      refine iff_of_true ?_ (.inl rfl)
      rw [← String.ofList_toList (s := text), he.encode_eq, he.encode_eq, decode?_eq, decode?_eq,
        htext, List.filter_append, List.filter_append, List.filter_cons_of_neg (by simp [hskipped])]
    | false =>
      have hforeign : ¬ IsClean (before ++ c :: after) := by
        rintro ⟨hall, -⟩
        simpa [hletter, hskipped] using hall c (by simp)
      rw [hspoilt hforeign, or_iff_right Bool.false_ne_true]
      exact eq_comm

/-- Blanks and padding in the middle of a text are passed over. -/
theorem foreign_ignored_iff_blanks :
    base64Url.IsBase64 ∧ IsClean "aG Vs=\nbG8=".toList ∧
    base64Url.encode "aG Vs=\nbG8=" =
      base64Url.encode (String.ofList (wholeGroups (letters "aG Vs=\nbG8=".toList))) := by
  have hclean : IsClean "aG Vs=\nbG8=".toList := by decide
  exact ⟨.inr rfl, hclean, (foreign_ignored_iff (.inr rfl) _).1.mpr (.inl hclean)⟩

/-- One foreign character costs a text all its bytes, and so does a letter too many. -/
theorem foreign_spoils :
    (String.ofList (wholeGroups (letters "aGVs!bG8".toList)) = "aGVsbG8" ∧
      base64.encode "aGVsbG8" = [0x68, 0x65, 0x6C, 0x6C, 0x6F] ∧ base64.encode "aGVs!bG8" = []) ∧
    (String.ofList (wholeGroups (letters "aGVsb".toList)) = "aGVs" ∧
      base64.encode "aGVs" = [0x68, 0x65, 0x6C] ∧ base64.encode "aGVsb" = []) ∧
    ¬ ∀ text : String, base64.encode text =
      base64.encode (String.ofList (wholeGroups (letters text.toList))) := by
  refine ⟨by decide, by decide, fun hall => ?_⟩
  have hforeign := hall "aGVs!bG8"
  revert hforeign
  decide

end Encoding
end GuestLint
