import GuestLint.Bytes.Utf8

/-!
# Reading UTF-8 back

The reader takes any bytes, and puts replacement characters where they are ill formed. What the
writer has written is well formed, and the reader finds each character with as many bytes as it was
written with.

* `next_two`, `next_three`, `next_four`: what the reader makes of a leading byte and of the bytes
  that continue it.
* `encodeChar_forms`: the bytes of a character, by the size of its code.
* `next_encodeChar`: the first character of a text that was written.
* `encodeChar_cases`: no byte of a character beyond ASCII is one of ASCII.
* `decodeLossy_encode`: the whole text.
* `encode_lt`: texts are in the order of their bytes.
-/
namespace GuestLint.Utf8

/-! ## Bytes as numbers -/

theorem toNat_ofNat_of_lt {n : Nat} (h : n < 256) : (UInt8.ofNat n).toNat = n := by
  rw [UInt8.toNat_ofNat', Nat.mod_eq_of_lt h]

theorem toNat_charOfNat (b : UInt8) : (Char.ofNat b.toNat).toNat = b.toNat := by
  have hb := b.toNat_lt
  rw [Char.ofNat, dif_pos (.inl (by omega))]
  rfl

theorem isContinuation_iff (b : UInt8) :
    isContinuation b = true ↔ 0x80 ≤ b.toNat ∧ b.toNat ≤ 0xBF := by
  rw [isContinuation, Bool.and_eq_true, decide_eq_true_eq, decide_eq_true_eq, UInt8.le_iff_toNat_le,
    UInt8.le_iff_toNat_le]
  rfl

theorem isSecond_iff (lead b : UInt8) :
    isSecond lead b = true ↔
      (lead.toNat = 0xE0 → 0xA0 ≤ b.toNat) ∧ (lead.toNat = 0xED → b.toNat ≤ 0x9F) ∧
      (lead.toNat = 0xF0 → 0x90 ≤ b.toNat) ∧ (lead.toNat = 0xF4 → b.toNat ≤ 0x8F) ∧
      0x80 ≤ b.toNat ∧ b.toNat ≤ 0xBF := by
  simp only [isSecond, secondRange, ← UInt8.toNat_inj, Bool.and_eq_true, decide_eq_true_eq,
    UInt8.le_iff_toNat_le, UInt8.reduceToNat]
  by_cases h1 : lead.toNat = 0xE0
  · simp [h1]; omega
  by_cases h2 : lead.toNat = 0xED
  · simp [h2]; omega
  by_cases h3 : lead.toNat = 0xF0
  · simp [h3]; omega
  by_cases h4 : lead.toNat = 0xF4
  · simp [h4]; omega
  simp [h1, h2, h3, h4]

/-! ## One character -/

variable {lead b c d : UInt8} {rest : Bytes}

theorem next_one (hlead : lead.toNat < 0x80) : next lead rest = (Char.ofNat lead.toNat, 0) := by
  unfold next
  rw [if_pos (UInt8.lt_iff_toNat_lt.mpr hlead)]

theorem next_two (hlow : 0xC2 ≤ lead.toNat) (hhigh : lead.toNat ≤ 0xDF)
    (hb : isContinuation b = true) :
    next lead (b :: rest) = (Char.ofNat (lead.toNat % 32 * 64 + payload b), 1) := by
  unfold next
  simp only [UInt8.lt_iff_toNat_lt, UInt8.le_iff_toNat_le, Bool.and_eq_true, decide_eq_true_eq,
    UInt8.reduceToNat]
  rw [if_neg (by omega), if_pos ⟨hlow, hhigh⟩, if_pos hb]

theorem next_three (hlow : 0xE0 ≤ lead.toNat) (hhigh : lead.toNat ≤ 0xEF)
    (hb : isSecond lead b = true) (hc : isContinuation c = true) :
    next lead (b :: c :: rest) =
      (Char.ofNat (lead.toNat % 16 * 4096 + payload b * 64 + payload c), 2) := by
  unfold next
  simp only [UInt8.lt_iff_toNat_lt, UInt8.le_iff_toNat_le, Bool.and_eq_true, decide_eq_true_eq,
    UInt8.reduceToNat]
  rw [if_neg (by omega), if_neg (by omega), if_pos ⟨hlow, hhigh⟩, if_pos hb, if_pos hc]

theorem next_four (hlow : 0xF0 ≤ lead.toNat) (hhigh : lead.toNat ≤ 0xF4)
    (hb : isSecond lead b = true) (hc : isContinuation c = true) (hd : isContinuation d = true) :
    next lead (b :: c :: d :: rest) =
      (Char.ofNat
        (lead.toNat % 8 * 262144 + payload b * 4096 + payload c * 64 + payload d), 3) := by
  unfold next
  simp only [UInt8.lt_iff_toNat_lt, UInt8.le_iff_toNat_le, Bool.and_eq_true, decide_eq_true_eq,
    UInt8.reduceToNat]
  rw [if_neg (by omega), if_neg (by omega), if_neg (by omega), if_pos ⟨hlow, hhigh⟩, if_pos hb,
    if_pos hc, if_pos hd]

/-- The code of a character is no surrogate, and below the end of the code space. -/
theorem code_cases (c : Char) : c.toNat < 0xD800 ∨ 0xDFFF < c.toNat ∧ c.toNat < 0x110000 := by
  exact c.valid

theorem ofNat_eq_char {n : Nat} {c : Char} (h : n = c.toNat) : Char.ofNat n = c := by
  rw [h, Char.ofNat_toNat]

/-- The bytes of a character, by the size of its code. -/
theorem encodeChar_forms (c : Char) :
    (∃ x, String.utf8EncodeChar c = [x] ∧ c.toNat ≤ 127 ∧ x.toNat = c.toNat) ∨
    (∃ x y, String.utf8EncodeChar c = [x, y] ∧ 127 < c.toNat ∧ c.toNat ≤ 2047 ∧
      x.toNat = c.toNat / 64 + 192 ∧ y.toNat = c.toNat % 64 + 128) ∨
    (∃ x y z, String.utf8EncodeChar c = [x, y, z] ∧ 2047 < c.toNat ∧ c.toNat ≤ 65535 ∧
      x.toNat = c.toNat / 4096 + 224 ∧ y.toNat = c.toNat / 64 % 64 + 128 ∧
      z.toNat = c.toNat % 64 + 128) ∨
    (∃ x y z u, String.utf8EncodeChar c = [x, y, z, u] ∧ 65535 < c.toNat ∧
      x.toNat = c.toNat / 262144 + 240 ∧ y.toNat = c.toNat / 4096 % 64 + 128 ∧
      z.toNat = c.toNat / 64 % 64 + 128 ∧ u.toNat = c.toNat % 64 + 128) := by
  have hcode := code_cases c
  have hval : c.val.toNat = c.toNat := rfl
  have hbyte : ∀ {n m : Nat}, n = m → m < 256 → (UInt8.ofNat n).toNat = m := by
    rintro n m rfl h
    exact toNat_ofNat_of_lt h
  unfold String.utf8EncodeChar
  rw [hval]
  dsimp only
  by_cases h1 : c.toNat ≤ 127
  · rw [if_pos h1]
    exact .inl ⟨_, rfl, h1, hbyte rfl (by omega)⟩
  rw [if_neg h1]
  by_cases h2 : c.toNat ≤ 2047
  · rw [if_pos h2]
    exact .inr (.inl ⟨_, _, rfl, by omega, h2, hbyte (by omega) (by omega),
      hbyte rfl (by omega)⟩)
  rw [if_neg h2]
  by_cases h3 : c.toNat ≤ 65535
  · rw [if_pos h3]
    exact .inr (.inr (.inl ⟨_, _, _, rfl, by omega, h3, hbyte (by omega) (by omega),
      hbyte rfl (by omega), hbyte rfl (by omega)⟩))
  · rw [if_neg h3]
    exact .inr (.inr (.inr ⟨_, _, _, _, rfl, by omega, hbyte (by omega) (by omega),
      hbyte rfl (by omega), hbyte rfl (by omega), hbyte rfl (by omega)⟩))

/-- The reader finds a character with as many bytes as it was written with. -/
theorem next_encodeChar (c : Char) (rest : Bytes) :
    ∃ lead tail, String.utf8EncodeChar c = lead :: tail ∧
      next lead (tail ++ rest) = (c, tail.length) := by
  have hcode := code_cases c
  rcases encodeChar_forms c with ⟨x, hc, hx⟩ | ⟨x, y, hc, hx⟩ | ⟨x, y, z, hc, hx⟩ |
    ⟨x, y, z, u, hc, hx⟩
  · refine ⟨x, [], hc, ?_⟩
    rw [List.nil_append, next_one (by omega), ofNat_eq_char (c := c) (by omega)]
    rfl
  · refine ⟨x, [y], hc, ?_⟩
    rw [List.cons_append, next_two (by omega) (by omega) ((isContinuation_iff y).mpr (by omega)),
      payload, ofNat_eq_char (c := c) (by omega)]
    rfl
  · refine ⟨x, [y, z], hc, ?_⟩
    rw [List.cons_append, List.cons_append, next_three (by omega) (by omega)
      ((isSecond_iff x y).mpr (by omega)) ((isContinuation_iff z).mpr (by omega)), payload, payload,
      ofNat_eq_char (c := c) (by omega)]
    rfl
  · refine ⟨x, [y, z, u], hc, ?_⟩
    rw [List.cons_append, List.cons_append, List.cons_append, next_four (by omega) (by omega)
      ((isSecond_iff x y).mpr (by omega)) ((isContinuation_iff z).mpr (by omega))
      ((isContinuation_iff u).mpr (by omega)), payload, payload, payload,
      ofNat_eq_char (c := c) (by omega)]
    rfl

/-- The characters of ASCII are written as one byte, and all others as bytes beyond ASCII. -/
theorem encodeChar_cases (c : Char) :
    (c.toNat < 0x80 ∧ String.utf8EncodeChar c = [UInt8.ofNat c.toNat]) ∨
      (0x80 ≤ c.toNat ∧ String.utf8EncodeChar c ≠ [] ∧
        ∀ b ∈ String.utf8EncodeChar c, 0x80 ≤ b.toNat) := by
  rcases encodeChar_forms c with ⟨x, hc, hlow, hx⟩ | ⟨x, y, hc, hx⟩ | ⟨x, y, z, hc, hx⟩ |
    ⟨x, y, z, u, hc, hx⟩
  · exact .inl ⟨by omega, by rw [hc, ← hx, UInt8.ofNat_toNat]⟩
  all_goals
    rw [hc]
    simp only [List.forall_mem_cons, List.not_mem_nil, false_implies, implies_true, and_true,
      ne_eq, List.cons_ne_nil, not_false_eq_true, true_and]
    omega

theorem encodeChar_of_lt {c : Char} (h : c.toNat < 0x80) :
    String.utf8EncodeChar c = [UInt8.ofNat c.toNat] :=
  (encodeChar_cases c).elim And.right fun hc => absurd hc.1 (by omega)

/-! ## Texts -/

theorem decodeChars_encodeChar (c : Char) (rest : Bytes) :
    decodeChars (String.utf8EncodeChar c ++ rest) = c :: decodeChars rest := by
  obtain ⟨lead, tail, hc, hnext⟩ := next_encodeChar c rest
  rw [hc, List.cons_append, decodeChars, hnext]
  simp

/-- **Round trip.** A text is read back from the bytes that it is written as. -/
theorem decodeLossy_encode (text : String) : decodeLossy (encode text) = text := by
  have hchars : ∀ cs : List Char, decodeChars (cs.flatMap String.utf8EncodeChar) = cs := by
    intro cs
    induction cs with
    | nil => rw [List.flatMap_nil, decodeChars]
    | cons c cs ih => rw [List.flatMap_cons, decodeChars_encodeChar, ih]
  rw [decodeLossy, encode, hchars, String.ofList_toList]

/-! ## Order -/

/-- Characters are written in the order of their codes, whatever follows. -/
theorem encodeChar_append_lt {c d : Char} (h : c < d) (more more' : Bytes) :
    String.utf8EncodeChar c ++ more < String.utf8EncodeChar d ++ more' := by
  have hlt : c.toNat < d.toNat := h
  rcases encodeChar_forms c with ⟨x, hc, hx⟩ | ⟨x, y, hc, hx⟩ | ⟨x, y, z, hc, hx⟩ |
    ⟨x, y, z, u, hc, hx⟩ <;>
  rcases encodeChar_forms d with ⟨x', hd, hx'⟩ | ⟨x', y', hd, hx'⟩ | ⟨x', y', z', hd, hx'⟩ |
    ⟨x', y', z', u', hd, hx'⟩ <;>
  · rw [hc, hd]
    simp only [List.cons_append, List.nil_append, List.cons_lt_cons_iff, UInt8.lt_iff_toNat_lt,
      ← UInt8.toNat_inj]
    omega

/-- **Order.** Texts are in the order of their bytes. -/
theorem encode_lt {s t : String} (h : s < t) : encode s < encode t := by
  have hchars : ∀ cs ds : List Char, cs < ds →
      cs.flatMap String.utf8EncodeChar < ds.flatMap String.utf8EncodeChar := by
    intro cs
    induction cs with
    | nil =>
      intro ds hlt
      cases ds with
      | nil => exact absurd hlt (List.lt_irrefl [])
      | cons d ds =>
        obtain ⟨b, tail, hd, -⟩ := next_encodeChar d []
        rw [List.flatMap_cons, hd]
        exact List.nil_lt_cons _ _
    | cons c cs ih =>
      intro ds hlt
      cases ds with
      | nil => exact absurd hlt (List.not_lt_nil _)
      | cons d ds =>
        rw [List.flatMap_cons, List.flatMap_cons]
        rcases List.cons_lt_cons_iff.mp hlt with hfirst | ⟨rfl, hrest⟩
        · exact encodeChar_append_lt hfirst _ _
        · exact List.append_left_lt (ih ds hrest)
  exact hchars _ _ h

end GuestLint.Utf8
