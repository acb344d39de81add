import Mathlib.Data.List.TakeWhile
import GuestLint.Text.Basic

/-!
# Texts taken apart

What comes off a text can be put back: the start or the end that was asked for, the characters at
the end, or what stands around the last separator.

* `strip?_eq_some_iff`, `stripEnd?_eq_some_iff`: a start and an end that come off.
* `eq_trimEndOf_append`: all of one character that comes off at the end.
* `cutLast_append`, `cutLast_cases`: what stands around the last separator.
* `trim_append`, `trim_cons`, `trim_between`: blanks at the ends are all that is trimmed.
* `numeralValue_eq`, `isNumeral_iff`, `toList_negSucc`: numerals.
-/
namespace GuestLint.Text

theorem strip?_eq_some_iff {start text rest : List Char} :
    strip? start text = some rest ↔ text = start ++ rest := by
  induction start generalizing text with
  | nil => simp [strip?]
  | cons a start ih =>
    cases text with
    | nil => simp [strip?]
    | cons b text =>
      unfold strip?
      rw [List.cons_append, List.cons.injEq]
      split
      · rename_i heq
        rw [ih, and_iff_right heq.symm]
      · rename_i hne
        simp [Ne.symm hne]

theorem stripEnd?_eq_some_iff {stop text rest : List Char} :
    stripEnd? stop text = some rest ↔ text = rest ++ stop := by
  unfold stripEnd?
  rw [Option.map_eq_some_iff]
  constructor
  · rintro ⟨reversed, hstrip, rfl⟩
    rw [← List.reverse_reverse text, strip?_eq_some_iff.mp hstrip, List.reverse_append,
      List.reverse_reverse]
  · rintro rfl
    exact ⟨rest.reverse, strip?_eq_some_iff.mpr List.reverse_append, List.reverse_reverse rest⟩

/-- What comes off at the end is the character alone. -/
theorem eq_trimEndOf_append (c : Char) (text : List Char) :
    ∃ n, text = trimEndOf c text ++ List.replicate n c := by
  have hall : ∀ d ∈ text.reverse.takeWhile (· == c), d = c := by
    intro d hd
    simpa using List.mem_takeWhile_imp hd
  refine ⟨(text.reverse.takeWhile (· == c)).length, ?_⟩
  have hsplit : text.reverse.takeWhile (· == c) ++ text.reverse.dropWhile (· == c) = text.reverse :=
    List.takeWhile_append_dropWhile
  rw [← List.reverse_inj, trimEndOf, List.reverse_append, List.reverse_replicate,
    List.reverse_reverse, ← List.eq_replicate_of_mem hall, hsplit]

/-- No more of the character is left at the end. -/
theorem trimEndOf_ne_append (c : Char) (text front : List Char) :
    trimEndOf c text ≠ front ++ [c] := by
  intro heq
  have hreverse : text.reverse.dropWhile (· == c) = c :: front.reverse := by
    rw [← List.reverse_reverse (text.reverse.dropWhile _)]
    show (trimEndOf c text).reverse = _
    rw [heq, List.reverse_append]
    rfl
  have hhead := List.head_dropWhile_not (p := (· == c)) (l := text.reverse) (by simp [hreverse])
  simp [hreverse] at hhead

/-- What stands behind the last separator of a text. -/
theorem cutLast_append {c : Char} (before : List Char) {after : List Char} (h : c ∉ after) :
    cutLast c (before ++ c :: after) = some (before, after) := by
  have hother : ∀ d ∈ after.reverse, (d != c) = true := by
    intro d hd
    rw [bne_iff_ne]
    rintro rfl
    exact h (List.mem_reverse.mp hd)
  have hreverse : (before ++ c :: after).reverse = after.reverse ++ c :: before.reverse := by simp
  unfold cutLast
  rw [hreverse, List.dropWhile_append_of_pos hother, List.takeWhile_append_of_pos hother,
    List.dropWhile_cons_of_neg (by simp), List.takeWhile_cons_of_neg (by simp)]
  simp

/-- A text is cut at the last separator, if there is one in it. -/
theorem cutLast_cases (c : Char) (text : List Char) :
    (c ∉ text ∧ cutLast c text = none) ∨
      ∃ before after, text = before ++ c :: after ∧ c ∉ after ∧
        cutLast c text = some (before, after) := by
  by_cases h : c ∈ text
  · obtain ⟨after, before, hreverse, hfree⟩ :=
      List.eq_append_cons_of_mem (List.mem_reverse.mpr h)
    have htext : text = before.reverse ++ c :: after.reverse := by
      rw [← List.reverse_reverse text, hreverse]
      simp
    have hfree' : c ∉ after.reverse := fun hc => hfree (List.mem_reverse.mp hc)
    exact .inr ⟨before.reverse, after.reverse, htext, hfree', by
      rw [htext]
      exact cutLast_append before.reverse hfree'⟩
  · have hnone : text.reverse.dropWhile (· != c) = [] := by
      rw [List.dropWhile_eq_nil_iff]
      intro d hd
      rw [bne_iff_ne]
      rintro rfl
      exact h (List.mem_reverse.mp hd)
    exact .inl ⟨h, by rw [cutLast, hnone]⟩

/-! ## Blanks at the ends -/

theorem trim_append {text trail : List Char} (h : ∀ c ∈ trail, isBlank c = true) :
    trim (text ++ trail) = trim text := by
  have htrail : ∀ c ∈ trail.reverse, isBlank c = true := fun c hc => h c (List.mem_reverse.mp hc)
  unfold trim trimStart
  rw [List.dropWhile_append]
  split
  · rename_i hempty
    rw [List.isEmpty_iff.mp hempty, List.dropWhile_eq_nil_iff.mpr h]
  · rw [trimEnd, trimEnd, List.reverse_append, List.dropWhile_append_of_pos htrail]

theorem trim_cons {c : Char} (h : isBlank c = true) (text : List Char) :
    trim (c :: text) = trim text := by
  rw [trim, trimStart, List.dropWhile_cons_of_pos h]
  rfl

/-- What neither begins nor ends with a blank stays as it is. -/
theorem trim_between {first last : Char} (hfirst : isBlank first = false) (middle : List Char)
    (hlast : isBlank last = false) :
    trim (first :: (middle ++ [last])) = first :: (middle ++ [last]) := by
  have hreverse : (first :: (middle ++ [last])).reverse = last :: (first :: middle).reverse := by
    simp
  rw [trim, trimStart, List.dropWhile_cons_of_neg (by simp [hfirst]), trimEnd, hreverse,
    List.dropWhile_cons_of_neg (by simp [hlast]), ← hreverse, List.reverse_reverse]

theorem trim_dropReturn (line : List Char) : trim (dropReturn line) = trim line := by
  have hreturn : ∀ c ∈ ['\r'], isBlank c = true := List.forall_mem_singleton.mpr (by decide)
  unfold dropReturn
  cases h : stripEnd? ['\r'] line with
  | none => rfl
  | some front => rw [stripEnd?_eq_some_iff.mp h, trim_append hreturn, Option.getD_some]

/-! ## Numerals -/

theorem isNumeral_iff {text : List Char} :
    isNumeral text = true ↔ text ≠ [] ∧ ∀ c ∈ text, c.isDigit = true := by
  simp [isNumeral]

theorem numeralValue_eq (text : List Char) : numeralValue text = Nat.ofDigitChars 10 text 0 := by
  unfold numeralValue
  generalize 0 = value
  induction text generalizing value with
  | nil => rfl
  | cons c text ih => rw [List.foldl_cons, ih, Nat.ofDigitChars_cons, Nat.mul_comm 10]

theorem isDigit_digits {n : Nat} {c : Char} (h : c ∈ digits 10 n) : c.isDigit = true :=
  Nat.isDigit_of_mem_toDigits (by decide) (by decide) h

theorem toList_negSucc (n : Nat) :
    (toString (Int.negSucc n)).toList = '-' :: Nat.toDigits 10 (n + 1) := by
  show ("-" ++ String.ofList (Nat.toDigits 10 (n + 1))).toList = _
  simp

end GuestLint.Text
