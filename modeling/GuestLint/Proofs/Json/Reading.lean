import GuestLint.Json.Document
import GuestLint.Json.Parser
import GuestLint.Proofs.Text.Basic

/-!
# Reading written JSON back

A written document is read back by the parsers of its parts. A part is read wherever it stands:
behind any blanks, and in front of anything that a number cannot go on with. Nothing else of a style
matters, so the compact form and the pretty one are read by the same lemmas.

* `Reads`: a parser reads a text as a value, wherever it stands.
* `reads_string`, `reads_integer`: values of one type.
* `reads_array`: lists, from their elements.
* `reads_record`: records, from the values that their fields take in.
* `decode_of_reads`: a whole text.
-/
namespace GuestLint.Json

variable {α σ : Type}

/-! ## What stands around a value -/

def Blank (cs : List Char) : Prop := ∀ c ∈ cs, isSpace c = true

/-- No number goes on with what is left. -/
def Apart (rest : List Char) : Prop :=
  ∀ c tail, rest = c :: tail → c.isDigit = false ∧ c ≠ '.' ∧ c ≠ 'e' ∧ c ≠ 'E'

theorem blank_nil : Blank [] := fun _ h => absurd h List.not_mem_nil

theorem Blank.skip {blanks : List Char} (h : Blank blanks) (rest : List Char) :
    skipSpace (blanks ++ rest) = skipSpace rest :=
  List.dropWhile_append_of_pos h

theorem skipSpace_cons {c : Char} (hc : isSpace c = false) (rest : List Char) :
    skipSpace (c :: rest) = c :: rest :=
  List.dropWhile_cons_of_neg (by simp [hc])

theorem Blank.skip_cons {blanks : List Char} (h : Blank blanks) {c : Char}
    (hc : isSpace c = false) (rest : List Char) :
    skipSpace (blanks ++ c :: rest) = c :: rest := by
  rw [h.skip, skipSpace_cons hc]

theorem apart_nil : Apart [] := fun _ _ h => by cases h

theorem apart_cons {c : Char} (hc : c.isDigit = false ∧ c ≠ '.' ∧ c ≠ 'e' ∧ c ≠ 'E')
    (tail : List Char) : Apart (c :: tail) := by
  rintro _ _ ⟨⟩
  exact hc

theorem Blank.apart {blanks : List Char} (h : Blank blanks) {rest : List Char}
    (hrest : Apart rest) : Apart (blanks ++ rest) := by
  cases blanks with
  | nil => exact hrest
  | cons c blanks =>
    have hc : isSpace c = true := h c List.mem_cons_self
    refine apart_cons ?_ _
    simp only [isSpace, Bool.or_eq_true, beq_iff_eq] at hc
    rcases hc with ((rfl | rfl) | rfl) | rfl <;> decide

theorem Apart.startsWithDigit {rest : List Char} (h : Apart rest) :
    startsWithDigit rest = false := by
  cases rest with
  | nil => rfl
  | cons c tail => exact (h c tail rfl).1

/-- A style that sets elements apart by blanks only. -/
structure Style.Spaced (style : Style) : Prop where
  lineBreak : ∀ depth, Blank (style.lineBreak depth)
  colon : ∃ blanks, Blank blanks ∧ style.colon = ':' :: blanks

theorem spaced_compact : compactStyle.Spaced := ⟨fun _ => blank_nil, [], blank_nil, rfl⟩

theorem spaced_pretty : prettyStyle.Spaced := by
  refine ⟨fun depth c hc => ?_, [' '], fun c hc => ?_, rfl⟩
  · rcases List.mem_cons.mp hc with rfl | hc
    · rfl
    · rw [List.eq_of_mem_replicate hc]
      rfl
  · rw [List.mem_singleton.mp hc]
    rfl

/-- A parser reads a text as a value, wherever the text stands. -/
structure Reads (p : Parser α) (text : List Char) (a : α) : Prop where
  /-- The text starts with neither a blank nor the bracket that closes a list. -/
  opens : ∃ c tail, text = c :: tail ∧ isSpace c = false ∧ c ≠ ']'
  reads : ∀ {blanks rest}, Blank blanks → Apart rest → p (blanks ++ (text ++ rest)) = .ok (a, rest)

theorem Reads.map {β : Type} {p : Parser α} {text : List Char} {a : α} (h : Reads p text a)
    (f : α → β) :
    Reads (fun rest => do let (a, rest) ← p rest; pure (f a, rest)) text (f a) := by
  refine ⟨h.opens, fun {blanks rest} hb hrest => ?_⟩
  simp only [h.reads hb hrest]
  rfl

/-! ## Strings -/

theorem hexValue?_hexDigit {n : Nat} (hn : n < 16) : Text.hexValue? (Text.hexDigit n) = some n := by
  revert n
  decide

/-- The escape of a control character is read as the character. -/
theorem hexEscape_control {c : Char} (hc : c.toNat < 32) :
    hexEscape '0' '0' (Text.hexDigit (c.toNat / 16)) (Text.hexDigit (c.toNat % 16)) =
      some c.toNat := by
  have hzero : Text.hexValue? '0' = some 0 := by decide
  have hhigh := hexValue?_hexDigit (n := c.toNat / 16) (by omega)
  have hlow := hexValue?_hexDigit (n := c.toNat % 16) (by omega)
  simp only [hexEscape, hzero, hhigh, hlow, Option.bind_eq_bind, Option.bind_some]
  simp
  omega

theorem stringBody_plain {c : Char} (hquote : c ≠ '"') (hslash : c ≠ '\\')
    (hcontrol : ¬ c.toNat < 32) (rest : List Char) :
    stringBody (c :: rest) = consTo c (stringBody rest) := by
  rw [stringBody.eq_def]
  split
  case h_7 heq =>
    obtain ⟨rfl, rfl⟩ := List.cons.inj heq
    rw [if_neg hcontrol]
  all_goals simp_all

/-- A character is read back from its escape. -/
theorem stringBody_escapeChar (c : Char) (rest : List Char) :
    stringBody (escapeChar c ++ rest) = consTo c (stringBody rest) := by
  unfold escapeChar
  split
  · subst_vars; rfl
  split
  · subst_vars; rfl
  split
  · subst_vars; rfl
  split
  · subst_vars; rfl
  split
  · subst_vars; rfl
  split
  · subst_vars; rfl
  split
  · subst_vars; rfl
  split
  · rename_i hcontrol
    have htrailing : isTrailing c.toNat = false := by simp [isTrailing]; omega
    have hleading : isLeading c.toNat = false := by simp [isLeading]; omega
    simp only [List.cons_append, List.nil_append]
    rw [stringBody, hexEscape_control hcontrol]
    simp only [htrailing, hleading, Char.ofNat_toNat]
    rfl
  · rename_i hquote hslash _ _ _ _ _ hcontrol
    exact stringBody_plain hquote hslash hcontrol rest

theorem stringBody_quoted (text : String) (rest : List Char) :
    stringBody (text.toList.flatMap escapeChar ++ '"' :: rest) = .ok (text.toList, rest) := by
  induction text.toList with
  | nil => rfl
  | cons c cs ih =>
    rw [List.flatMap_cons, List.append_assoc, stringBody_escapeChar, ih]
    rfl

theorem quote_append (text : String) (rest : List Char) :
    quote text ++ rest = '"' :: (text.toList.flatMap escapeChar ++ '"' :: rest) := by
  simp [quote]

theorem opens_quote (text : String) :
    ∃ c tail, quote text = c :: tail ∧ isSpace c = false ∧ c ≠ ']' :=
  ⟨_, _, rfl, by decide, by decide⟩

theorem reads_string (text : String) : Reads stringOf (quote text) text := by
  refine ⟨opens_quote text, fun {blanks rest} hb _ => ?_⟩
  have hquote : isSpace '"' = false := by decide
  unfold stringOf
  rw [quote_append, hb.skip_cons hquote]
  simp only [stringBody_quoted]
  show Except.ok (String.ofList text.toList, rest) = _
  rw [String.ofList_toList]

/-! ## Integers -/

theorem le_ofDigitChars (ds : List Char) (acc : Nat) : acc ≤ Nat.ofDigitChars 10 ds acc := by
  induction ds generalizing acc with
  | nil => exact Nat.le_refl acc
  | cons d ds ih =>
    rw [Nat.ofDigitChars_cons]
    exact Nat.le_trans (by omega) (ih _)

/-- Digits whose number fits are all taken. -/
theorem takeDigits_append {limit : Nat} {ds rest : List Char} (hds : ∀ d ∈ ds, d.isDigit = true)
    (hrest : startsWithDigit rest = false) (acc count : Nat)
    (hfits : Nat.ofDigitChars 10 ds acc ≤ limit) :
    takeDigits limit acc count (ds ++ rest) =
      (Nat.ofDigitChars 10 ds acc, count + ds.length, rest) := by
  induction ds generalizing acc count with
  | nil =>
    cases rest with
    | nil => rfl
    | cons c tail =>
      have hc : c.isDigit = false := hrest
      rw [List.nil_append, takeDigits, if_neg (by simp [hc])]
      rfl
  | cons d ds ih =>
    have hd := hds d List.mem_cons_self
    have hacc : 10 * acc + (d.toNat - '0'.toNat) = acc * 10 + digitValue d := by
      rw [digitValue, Nat.mul_comm]
    rw [Nat.ofDigitChars_cons, hacc] at hfits
    have hstep : acc * 10 + digitValue d ≤ limit := Nat.le_trans (le_ofDigitChars ds _) hfits
    rw [List.cons_append, takeDigits, if_pos ⟨hd, hstep⟩,
      ih (fun c hc => hds c (List.mem_cons_of_mem d hc)) _ _ hfits, Nat.ofDigitChars_cons, hacc,
      List.length_cons, Nat.add_right_comm, Nat.add_assoc]

/-- The digits of a positive number start with another digit than zero. -/
theorem toDigits_pos {n : Nat} (hn : 0 < n) :
    ∃ d ds, Nat.toDigits 10 n = d :: ds ∧ d ≠ '0' := by
  induction n using Nat.strongRecOn with
  | ind n ih =>
    rw [Nat.toDigits_eq_if (by decide)]
    by_cases hlt : n < 10
    · rw [if_pos hlt]
      exact ⟨_, _, rfl, fun h => Nat.ne_of_gt hn (Nat.digitChar_eq_zero.mp h)⟩
    · rw [if_neg hlt]
      obtain ⟨d, ds, hds, hd⟩ := ih (n / 10) (by omega) (by omega)
      exact ⟨d, ds ++ [(n % 10).digitChar], by rw [hds]; rfl, hd⟩

theorem numberTail_apart {rest : List Char} (h : Apart rest) (negative : Bool) (n : Nat) :
    numberTail negative n rest =
      if negative = false then .ok (.unsigned n, rest)
      else if n = 0 ∨ Nat.pow 2 63 < n then .ok (.float (Double.ofInt (Int.ofNat n)).neg, rest)
      else .ok (.signed (-Int.ofNat n), rest) := by
  unfold numberTail
  split
  · exact absurd rfl (h _ _ rfl).2.1
  · exact absurd rfl (h _ _ rfl).2.2.1
  · exact absurd rfl (h _ _ rfl).2.2.2
  · rfl

/-- The digits of a number that fits are read as the number. -/
theorem unsignedNumber_digits {n : Nat} (hn : n ≤ maxSignificand) {rest : List Char}
    (hrest : Apart rest) (negative : Bool) :
    unsignedNumber negative (Nat.toDigits 10 n ++ rest) = numberTail negative n rest := by
  have hdigit := hrest.startsWithDigit
  rcases Nat.eq_zero_or_pos n with rfl | hpos
  · have hzero : Nat.toDigits 10 0 = ['0'] := by decide
    rw [hzero, List.cons_append, List.nil_append, unsignedNumber, hdigit]
    rfl
  · obtain ⟨d, ds, hds, hd⟩ := toDigits_pos hpos
    have hall : ∀ c ∈ d :: ds, c.isDigit = true := fun c hc =>
      Nat.isDigit_of_mem_toDigits (by decide) (by decide) (hds ▸ hc)
    have hvalue : Nat.ofDigitChars 10 ds (digitValue d) = n := by
      have h := Nat.ofDigitChars_ten_toDigits (n := n)
      rwa [hds, Nat.ofDigitChars_cons, Nat.mul_zero, Nat.zero_add] at h
    have htake : takeDigits maxSignificand (digitValue d) 1 (ds ++ rest) =
        (n, 1 + ds.length, rest) := by
      rw [takeDigits_append (fun c hc => hall c (List.mem_cons_of_mem d hc)) hdigit _ _
        (by rw [hvalue]; exact hn), hvalue]
    rw [hds, List.cons_append]
    unfold unsignedNumber
    split
    · contradiction
    · rename_i heq
      exact absurd (List.cons.inj heq).1 hd
    · rename_i heq
      obtain ⟨rfl, rfl⟩ := List.cons.inj heq
      rw [if_pos (hall d List.mem_cons_self), htake]
      simp [hdigit]

theorem digit_opens {d : Char} (hd : d.isDigit = true) :
    isSpace d = false ∧ d ≠ ']' ∧ d ≠ '-' := by
  refine ⟨?_, ?_, ?_⟩
  · rw [Bool.eq_false_iff]
    intro hspace
    simp only [isSpace, Bool.or_eq_true, beq_iff_eq] at hspace
    rcases hspace with ((rfl | rfl) | rfl) | rfl <;> contradiction
  · rintro rfl
    contradiction
  · rintro rfl
    contradiction

theorem toDigits_opens (n : Nat) :
    ∃ d ds, Nat.toDigits 10 n = d :: ds ∧ d.isDigit = true := by
  obtain ⟨d, ds, hds⟩ := List.exists_cons_of_ne_nil (Nat.toDigits_ne_nil (n := n) (b := 10))
  exact ⟨d, ds, hds, Nat.isDigit_of_mem_toDigits (by decide) (by decide)
    (hds ▸ List.mem_cons_self)⟩

/-- An integer that fits into 64 bits is read back within bounds that hold it. -/
theorem reads_integer (type : String) {low high n : Int} (hlow : low ≤ n) (hhigh : n ≤ high)
    (hmin : -(Nat.pow 2 63 : Nat) ≤ n) (hmax : n ≤ maxSignificand) :
    Reads (integerOf type low high) (toString n).toList n := by
  have hrange : low ≤ n ∧ n ≤ high := ⟨hlow, hhigh⟩
  cases n with
  | ofNat n =>
    have htext : (toString (Int.ofNat n)).toList = Nat.toDigits 10 n := String.toList_ofList
    obtain ⟨d, ds, hds, hd⟩ := toDigits_opens n
    obtain ⟨hspace, hclose, hminus⟩ := digit_opens hd
    rw [htext]
    refine ⟨⟨d, ds, hds, hspace, hclose⟩, fun {blanks rest} hb hrest => ?_⟩
    have hnumber := unsignedNumber_digits (Int.ofNat_le.mp hmax) hrest false
    rw [numberTail_apart hrest, if_pos rfl, hds, List.cons_append] at hnumber
    unfold integerOf
    rw [hds, List.cons_append, hb.skip_cons hspace]
    simp only [hd, if_true, hnumber]
    show (if _ then _ else _) = _
    rw [if_pos hrange]
  | negSucc n =>
    have hfits : n + 1 ≤ Nat.pow 2 63 := by omega
    have hmaximum : Nat.pow 2 63 ≤ maxSignificand := by decide
    rw [Text.toList_negSucc]
    refine ⟨⟨_, _, rfl, by decide, by decide⟩, fun {blanks rest} hb hrest => ?_⟩
    have hnumber := unsignedNumber_digits (Nat.le_trans hfits hmaximum) hrest true
    rw [numberTail_apart hrest, if_neg (by decide), if_neg (by omega)] at hnumber
    unfold integerOf
    rw [List.cons_append, hb.skip_cons (by decide)]
    simp only [hnumber]
    show (if low ≤ Int.negSucc n ∧ Int.negSucc n ≤ high then
      Except.ok (Int.negSucc n, rest) else _) = _
    rw [if_pos hrange]

/-! ## Lists -/

theorem inBrackets_ok {close : List Char → Except Refusal (List Char)}
    {after : List Char → List Char} {level : Nat} {body : Nat → Parser α}
    {rest rest' rest'' : List Char} {a : α}
    (hbody : body (level + 1) (rest.drop 1) = .ok (a, rest')) (hclose : close rest' = .ok rest'') :
    inBrackets close after (level + 2) body rest = .ok (a, rest'') := by
  unfold inBrackets
  simp only [hbody, hclose]
  rfl

theorem closeList_bracket (rest : List Char) : closeList (']' :: rest) = .ok rest := by
  unfold closeList
  rw [skipSpace_cons (by decide)]
  rfl

theorem listOf_open (item : Nat → Parser α) (level : Nat) {blanks : List Char} (hb : Blank blanks)
    (rest : List Char) :
    listOf item level (blanks ++ '[' :: rest) =
      inBrackets closeList afterList level
        (fun level rest => elements (item level) (rest.length + 1) true rest) ('[' :: rest) := by
  unfold listOf
  rw [hb.skip_cons (by decide)]
  rfl

/-- How values are written, and a parser that reads them back. -/
def ReadsAll (style : Style) (depth : Nat) (item : Parser α) (doc : α → Document)
    (xs : List α) : Prop :=
  ∀ x ∈ xs, Reads item (write style depth (doc x)) x

theorem ReadsAll.tail {style : Style} {depth : Nat} {item : Parser α} {doc : α → Document} {x : α}
    {xs : List α} (h : ReadsAll style depth item doc (x :: xs)) :
    ReadsAll style depth item doc xs := fun y hy => h y (List.mem_cons_of_mem x hy)

theorem element_closed (first : Bool) (item : Parser α) {blanks : List Char} (hb : Blank blanks)
    (rest : List Char) :
    element first item (blanks ++ ']' :: rest) = .ok (none, ']' :: rest) := by
  unfold element moreElements
  rw [hb.skip_cons (by decide)]
  rfl

/-- An element is read behind the opening bracket, or behind a comma. -/
theorem Reads.element {item : Parser α} {text : List Char} {a : α} (h : Reads item text a)
    {blanks rest : List Char} (hb : Blank blanks) (hrest : Apart rest) :
    element true item (blanks ++ (text ++ rest)) = .ok (some a, rest) ∧
      element false item (',' :: (blanks ++ (text ++ rest))) = .ok (some a, rest) := by
  obtain ⟨c, tail, htext, hc, hclose⟩ := h.opens
  have hread := h.reads blank_nil hrest
  rw [List.nil_append, htext, List.cons_append] at hread
  rw [htext, List.cons_append]
  constructor
  · have hmore : moreElements true (blanks ++ c :: (tail ++ rest)) =
        .ok (true, c :: (tail ++ rest)) := by
      unfold moreElements
      rw [hb.skip_cons hc]
      simp
    simp only [Json.element, hmore]
    show (item _ >>= _) = _
    rw [hread]
    rfl
  · have hmore : moreElements false (',' :: (blanks ++ c :: (tail ++ rest))) =
        .ok (true, c :: (tail ++ rest)) := by
      unfold moreElements
      rw [skipSpace_cons (by decide)]
      simp [hb.skip_cons hc, hclose]
    simp only [Json.element, hmore]
    show (item _ >>= _) = _
    rw [hread]
    rfl

section
variable {style : Style} (hstyle : style.Spaced)

theorem write_array_cons (style : Style) (depth : Nat) (item : Document) (items : List Document)
    (rest : List Char) :
    write style depth (.array (item :: items)) ++ rest =
      '[' :: (style.lineBreak (depth + 1) ++ (write style (depth + 1) item ++
        (writeItems style depth items ++ (style.lineBreak depth ++ ']' :: rest)))) := by
  simp [write]

theorem length_le_writeItems (style : Style) (depth : Nat) (items : List Document) :
    items.length ≤ (writeItems style depth items).length := by
  induction items with
  | nil => exact Nat.zero_le _
  | cons item items ih =>
    simp only [writeItems, List.length_cons, List.length_append]
    omega

include hstyle

theorem apart_writeItems (depth : Nat) (items : List Document) (rest : List Char) :
    Apart (writeItems style depth items ++ (style.lineBreak depth ++ ']' :: rest)) := by
  cases items with
  | nil => exact (hstyle.lineBreak depth).apart (apart_cons (by decide) rest)
  | cons item items => exact apart_cons (by decide) _

variable {depth : Nat}

/-- The elements behind the first are read up to the closing bracket. -/
theorem elements_writeItems {item : Parser α} {doc : α → Document} {xs : List α}
    (hxs : ReadsAll style (depth + 1) item doc xs) {fuel : Nat} (hfuel : xs.length < fuel)
    (rest : List Char) :
    elements item fuel false
        (writeItems style depth (xs.map doc) ++ (style.lineBreak depth ++ ']' :: rest)) =
      .ok (xs, ']' :: rest) := by
  induction xs generalizing fuel with
  | nil =>
    obtain ⟨fuel, rfl⟩ := Nat.exists_eq_succ_of_ne_zero (Nat.ne_of_gt hfuel)
    rw [elements, List.map_nil, writeItems, List.nil_append,
      element_closed false item (hstyle.lineBreak depth)]
    rfl
  | cons x xs ih =>
    obtain ⟨fuel, rfl⟩ := Nat.exists_eq_succ_of_ne_zero (Nat.ne_of_gt (Nat.zero_lt_of_lt hfuel))
    have hitem := ((hxs x List.mem_cons_self).element (hstyle.lineBreak (depth + 1))
      (apart_writeItems hstyle depth (xs.map doc) rest)).2
    simp only [List.map_cons, writeItems, List.cons_append, List.append_assoc]
    rw [elements, hitem]
    show (elements item fuel false _ >>= _) = _
    rw [ih hxs.tail (Nat.lt_of_succ_lt_succ hfuel)]
    rfl

/-- All elements are read up to the closing bracket. -/
theorem elements_first {item : Parser α} {doc : α → Document} {x : α} {xs : List α}
    (hxs : ReadsAll style (depth + 1) item doc (x :: xs)) {fuel : Nat} (hfuel : xs.length < fuel)
    (rest : List Char) :
    elements item (fuel + 1) true
        (style.lineBreak (depth + 1) ++ (write style (depth + 1) (doc x) ++
          (writeItems style depth (xs.map doc) ++ (style.lineBreak depth ++ ']' :: rest)))) =
      .ok (x :: xs, ']' :: rest) := by
  have hfirst := ((hxs x List.mem_cons_self).element (hstyle.lineBreak (depth + 1))
    (apart_writeItems hstyle depth (xs.map doc) rest)).1
  rw [elements, hfirst]
  show (elements item fuel false _ >>= _) = _
  rw [elements_writeItems hstyle hxs.tail hfuel]
  rfl

/-- **Lists.** A list is read back when its elements are. -/
theorem reads_array {item : Nat → Parser α} {doc : α → Document} {level : Nat} {xs : List α}
    (hxs : ReadsAll style (depth + 1) (item (level + 1)) doc xs) :
    Reads (listOf item (level + 2)) (write style depth (.array (xs.map doc))) xs := by
  have hopen : isSpace '[' = false := by decide
  cases xs with
  | nil =>
    refine ⟨⟨'[', [']'], by simp [write], hopen, by decide⟩, fun {blanks rest} hb hrest => ?_⟩
    have hclosed := element_closed true (item (level + 1)) blank_nil rest
    simp only [List.map_nil, write, List.cons_append, List.nil_append]
    rw [listOf_open item _ hb]
    refine inBrackets_ok ?_ (closeList_bracket rest)
    rw [List.drop_succ_cons, List.drop_zero, elements]
    simp only [List.nil_append] at hclosed
    rw [hclosed]
    rfl
  | cons x xs =>
    refine ⟨⟨'[', _, by rw [List.map_cons, write], hopen, by decide⟩,
      fun {blanks rest} hb hrest => ?_⟩
    have hlength := length_le_writeItems style depth (xs.map doc)
    rw [List.length_map] at hlength
    rw [List.map_cons, write_array_cons, listOf_open item _ hb]
    refine inBrackets_ok ?_ (closeList_bracket rest)
    rw [List.drop_succ_cons, List.drop_zero, elements_first hstyle hxs
      (by simp only [List.length_append, List.length_cons]; omega)]

end

/-! ## Records -/

/-- The value of a field is taken in behind its colon. -/
def Takes (style : Style) (step : σ → String → Parser σ) (key : String) (text : List Char)
    (s s' : σ) : Prop :=
  ∀ rest, Apart rest → step s key (style.colon ++ (text ++ rest)) = .ok (s', rest)

/-- The fields are taken in one after another. -/
inductive TakesAll (style : Style) (depth : Nat) (step : σ → String → Parser σ) :
    List (String × Document) → σ → σ → Prop where
  | none (s : σ) : TakesAll style depth step [] s s
  | next {key : String} {value : Document} {fields : List (String × Document)} {s s' s'' : σ} :
    Takes style step key (write style depth value) s s' →
      TakesAll style depth step fields s' s'' →
        TakesAll style depth step ((key, value) :: fields) s s''

/-- A value that a parser reads is taken in by a field that is empty so far. -/
theorem Reads.member {p : Parser α} {text : List Char} {a : α} (h : Reads p text a) {style : Style}
    (hstyle : style.Spaced) (name : String) {rest : List Char} (hrest : Apart rest) :
    member name none p (style.colon ++ (text ++ rest)) = .ok (some a, rest) := by
  obtain ⟨blanks, hb, hcolon⟩ := hstyle.colon
  rw [hcolon, List.cons_append]
  unfold Json.member colon
  rw [skipSpace_cons (by decide)]
  show (p _ >>= _) = _
  rw [h.reads hb hrest]
  rfl

theorem closeObject_brace (rest : List Char) : closeObject (closeBrace :: rest) = .ok rest := by
  unfold closeObject
  rw [skipSpace_cons (by decide)]
  exact if_pos rfl

theorem recordOf_open (name : String) (fromList fromMembers : Nat → Parser α) (level : Nat)
    {blanks : List Char} (hb : Blank blanks) (rest : List Char) :
    recordOf name fromList fromMembers level (blanks ++ openBrace :: rest) =
      inBrackets closeObject afterObject level fromMembers (openBrace :: rest) := by
  unfold recordOf
  rw [hb.skip_cons (by decide)]
  rfl

/-- Where a key is found, its member is taken in, and the members behind it follow. -/
theorem members_key {step : σ → String → Parser σ} {fuel : Nat} {first : Bool} {key : String}
    {s s' : σ} {text value rest : List Char}
    (hmore : moreMembers first text = .ok (true, key.toList.flatMap escapeChar ++ '"' :: value))
    (hstep : step s key value = .ok (s', rest)) :
    members step (fuel + 1) first s text = members step fuel false s' rest := by
  rw [members, hmore]
  show (stringBody _ >>= _) = _
  rw [stringBody_quoted]
  show (step s (String.ofList key.toList) _ >>= _) = _
  rw [String.ofList_toList, hstep]
  rfl

section
variable {style : Style} (hstyle : style.Spaced)

theorem write_object_cons (style : Style) (depth : Nat) (key : String) (value : Document)
    (fields : List (String × Document)) (rest : List Char) :
    write style depth (.object ((key, value) :: fields)) ++ rest =
      openBrace :: (style.lineBreak (depth + 1) ++ (quote key ++ (style.colon ++
        (write style (depth + 1) value ++ (writeFields style depth fields ++
          (style.lineBreak depth ++ closeBrace :: rest)))))) := by
  simp [write]

theorem length_le_writeFields (style : Style) (depth : Nat) (fields : List (String × Document)) :
    fields.length ≤ (writeFields style depth fields).length := by
  induction fields with
  | nil => exact Nat.zero_le _
  | cons field fields ih =>
    simp only [writeFields, List.length_cons, List.length_append]
    omega

include hstyle

theorem apart_writeFields (depth : Nat) (fields : List (String × Document)) (rest : List Char) :
    Apart (writeFields style depth fields ++ (style.lineBreak depth ++ closeBrace :: rest)) := by
  cases fields with
  | nil => exact (hstyle.lineBreak depth).apart (apart_cons (by decide) rest)
  | cons field fields => exact apart_cons (by decide) _

/-- A key is found behind the opening brace, or behind a comma. -/
theorem moreMembers_quote (depth : Nat) (key : String) (rest : List Char) :
    moreMembers true (style.lineBreak depth ++ (quote key ++ rest)) =
        .ok (true, key.toList.flatMap escapeChar ++ '"' :: rest) ∧
      moreMembers false (',' :: (style.lineBreak depth ++ (quote key ++ rest))) =
        .ok (true, key.toList.flatMap escapeChar ++ '"' :: rest) := by
  have hquote : isSpace '"' = false := by decide
  have hbrace : ¬ ('"' = Char.ofNat 0x7D) := by decide
  have hcomma : ¬ (',' = Char.ofNat 0x7D) := by decide
  rw [quote_append]
  constructor
  · unfold moreMembers
    rw [(hstyle.lineBreak depth).skip_cons hquote]
    simp only [hbrace, if_false, if_true]
  · unfold moreMembers
    rw [skipSpace_cons (by decide)]
    simp only [hcomma, if_false, if_true, (hstyle.lineBreak depth).skip_cons hquote]
    rfl

variable {depth : Nat} {step : σ → String → Parser σ}

/-- The fields behind the first are taken in up to the closing brace. -/
theorem members_writeFields {fields : List (String × Document)} {s s' : σ}
    (htakes : TakesAll style (depth + 1) step fields s s') {fuel : Nat}
    (hfuel : fields.length < fuel) (rest : List Char) :
    members step fuel false s
        (writeFields style depth fields ++ (style.lineBreak depth ++ closeBrace :: rest)) =
      .ok (s', closeBrace :: rest) := by
  induction htakes generalizing fuel with
  | none s =>
    obtain ⟨fuel, rfl⟩ := Nat.exists_eq_succ_of_ne_zero (Nat.ne_of_gt hfuel)
    unfold members moreMembers
    rw [writeFields, List.nil_append, (hstyle.lineBreak depth).skip_cons (by decide)]
    rfl
  | @next key value fields s s' s'' hfirst _ ih =>
    obtain ⟨fuel, rfl⟩ := Nat.exists_eq_succ_of_ne_zero (Nat.ne_of_gt (Nat.zero_lt_of_lt hfuel))
    simp only [writeFields, List.cons_append, List.append_assoc]
    rw [members_key (moreMembers_quote hstyle (depth + 1) key _).2
      (hfirst _ (apart_writeFields hstyle depth fields rest))]
    exact ih (Nat.lt_of_succ_lt_succ hfuel)

/-- All fields are taken in up to the closing brace. -/
theorem members_first {key : String} {value : Document} {fields : List (String × Document)}
    {s s' : σ} (htakes : TakesAll style (depth + 1) step ((key, value) :: fields) s s') {fuel : Nat}
    (hfuel : fields.length < fuel) (rest : List Char) :
    members step (fuel + 1) true s
        (style.lineBreak (depth + 1) ++ (quote key ++ (style.colon ++
          (write style (depth + 1) value ++ (writeFields style depth fields ++
            (style.lineBreak depth ++ closeBrace :: rest)))))) =
      .ok (s', closeBrace :: rest) := by
  cases htakes with
  | next hfirst hothers =>
    rw [members_key (moreMembers_quote hstyle (depth + 1) key _).1
      (hfirst _ (apart_writeFields hstyle depth fields rest))]
    exact members_writeFields hstyle hothers hfuel rest

/-- **Records.** A record is read back when its fields are taken in and make up the value. -/
theorem reads_record {name : String} {fromList fromMembers : Nat → Parser α} {level : Nat}
    {init s : σ} {finish : σ → Parser α} {a : α} {key : String} {value : Document}
    {fields : List (String × Document)}
    (hfrom : ∀ rest, fromMembers (level + 1) rest = (do
      let (s, rest) ← members step (rest.length + 1) true init rest
      finish s rest))
    (htakes : TakesAll style (depth + 1) step ((key, value) :: fields) init s)
    (hfinish : ∀ rest, finish s rest = .ok (a, rest)) :
    Reads (recordOf name fromList fromMembers (level + 2))
      (write style depth (.object ((key, value) :: fields))) a := by
  have hopen : isSpace openBrace = false := by decide
  refine ⟨⟨openBrace, _, by rw [write], hopen, by decide⟩, fun {blanks rest} hb hrest => ?_⟩
  have hlength := length_le_writeFields style depth fields
  rw [write_object_cons, recordOf_open name _ _ _ hb]
  refine inBrackets_ok ?_ (closeObject_brace rest)
  rw [List.drop_succ_cons, List.drop_zero, hfrom, members_first hstyle htakes
    (by simp only [List.length_append, List.length_cons]; omega)]
  exact hfinish _

end

/-! ## Whole texts -/

/-- A text is read when its value is, whatever blanks stand behind it. -/
theorem decode_of_reads {value : Nat → Parser α} {text : List Char} {a : α}
    (h : Reads (value maxDepth) text a) {blanks : List Char} (hb : Blank blanks) :
    decode value (String.ofList (text ++ blanks)) = .ok a := by
  have hapart : Apart blanks := by simpa using hb.apart apart_nil
  have hread := h.reads blank_nil hapart
  have hend : skipSpace blanks = [] := by simpa [skipSpace] using hb.skip []
  unfold decode
  rw [String.toList_ofList]
  rw [List.nil_append] at hread
  simp only [hread, bind, Except.bind, hend]
  rfl

end GuestLint.Json
