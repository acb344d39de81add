import GuestLint.Bytes.Base64

/-!
# Reading base 64 back

The letters of a text in base 64 are its sextets, and the reader takes both alphabets for the same
sextets. What it skips may be cut or put in anywhere, so a text is read back from many forms.

* `sextets`, `Alphabet.Readable.filter_encodeChars`: the letters of a text are those of its
  sextets, whatever its tail is padded with.
* `joinSextets_sextets`: sextets are joined to the bytes that they were cut from, for all three
  lengths of the tail.
* `Loosened`, `Alphabet.Readable.decode?_loosened`: a text in either alphabet is read back, without
  its padding and with blanks in it as well.
-/
namespace GuestLint.Base64

/-! ## Alphabets -/

/-- An alphabet whose last two letters the reader knows. -/
structure Alphabet.Readable (a : Alphabet) : Prop where
  letter62 : a.letter62 = '+' ∨ a.letter62 = '-'
  letter63 : a.letter63 = '/' ∨ a.letter63 = '_'

theorem readable_standard : standard.Readable := ⟨.inl rfl, .inl rfl⟩

theorem readable_urlSafe : urlSafe.Readable := ⟨.inr rfl, .inr rfl⟩

variable {a : Alphabet}

/-- A letter is read as the sextet that it stands for, and is not skipped. -/
theorem Alphabet.Readable.letter_read (ha : a.Readable) {n : Nat} (hn : n < 64) :
    value? (letter a n) = some n ∧ isSkipped (letter a n) = false := by
  obtain ⟨c62, c63, padded⟩ := a
  obtain ⟨h62, h63⟩ := ha
  dsimp only at h62 h63
  revert n padded
  rcases h62 with rfl | rfl <;> rcases h63 with rfl | rfl <;> decide

theorem Alphabet.Readable.values?_map (ha : a.Readable) {ns : List Nat} (hns : ∀ n ∈ ns, n < 64) :
    values? (ns.map (letter a)) = some ns := by
  induction ns with
  | nil => rfl
  | cons n ns ih =>
    have hn := (ha.letter_read (hns n List.mem_cons_self)).1
    have hrest := ih fun m hm => hns m (List.mem_cons_of_mem n hm)
    rw [List.map_cons, values?, hn, hrest]
    rfl

/-! ## Sextets -/

/-- The sextets that bytes are cut into; the last one is filled up with zeros. -/
def sextets : Bytes → List Nat
  | x :: y :: z :: rest =>
    x.toNat / 4 :: (x.toNat % 4 * 16 + y.toNat / 16) :: (y.toNat % 16 * 4 + z.toNat / 64) ::
      z.toNat % 64 :: sextets rest
  | [x, y] => [x.toNat / 4, x.toNat % 4 * 16 + y.toNat / 16, y.toNat % 16 * 4]
  | [x] => [x.toNat / 4, x.toNat % 4 * 16]
  | [] => []

theorem sextets_lt (bytes : Bytes) : ∀ n ∈ sextets bytes, n < 64 := by
  induction bytes using sextets.induct with
  | case1 x y z rest ih =>
    have hx := x.toNat_lt
    have hy := y.toNat_lt
    have hz := z.toNat_lt
    simp only [sextets, List.mem_cons, forall_eq_or_imp]
    exact ⟨by omega, by omega, by omega, by omega, ih⟩
  | case2 x y =>
    have hx := x.toNat_lt
    have hy := y.toNat_lt
    simp only [sextets, List.mem_cons, List.not_mem_nil, forall_eq_or_imp, or_false, forall_eq]
    exact ⟨by omega, by omega, by omega⟩
  | case3 x =>
    have hx := x.toNat_lt
    simp only [sextets, List.mem_cons, List.not_mem_nil, forall_eq_or_imp, or_false, forall_eq]
    exact ⟨by omega, by omega⟩
  | case4 => simp [sextets]

theorem ofNat_eq {n : Nat} {b : UInt8} (h : n = b.toNat) : UInt8.ofNat n = b := by
  rw [h, UInt8.ofNat_toNat]

/-- Sextets are joined to the bytes that they were cut from. -/
theorem joinSextets_sextets (bytes : Bytes) : joinSextets (sextets bytes) = some bytes := by
  induction bytes using sextets.induct with
  | case1 x y z rest ih =>
    have hx := x.toNat_lt
    have hy := y.toNat_lt
    have hz := z.toNat_lt
    rw [sextets, joinSextets, ih, Option.map_some, ofNat_eq (b := x) (by omega),
      ofNat_eq (b := y) (by omega), ofNat_eq (b := z) (by omega)]
  | case2 x y =>
    have hx := x.toNat_lt
    have hy := y.toNat_lt
    rw [sextets, joinSextets, ofNat_eq (b := x) (by omega), ofNat_eq (b := y) (by omega)]
  | case3 x =>
    have hx := x.toNat_lt
    rw [sextets, joinSextets, ofNat_eq (b := x) (by omega)]
  | case4 => rfl

/-! ## Texts -/

theorem filter_pad (a : Alphabet) (n : Nat) : (pad a n).filter (fun c => !isSkipped c) = [] := by
  have hpad : isSkipped '=' = true := by decide
  unfold pad
  split
  · rw [List.filter_replicate_of_neg (by simp [hpad])]
  · rfl

/-- The letters of a text are those of its sextets. -/
theorem Alphabet.Readable.filter_encodeChars (ha : a.Readable) (bytes : Bytes) :
    (encodeChars a bytes).filter (fun c => !isSkipped c) = (sextets bytes).map (letter a) := by
  have hletters : ∀ ns : List Nat, (∀ n ∈ ns, n < 64) →
      (ns.map (letter a)).filter (fun c => !isSkipped c) = ns.map (letter a) := by
    intro ns hns
    refine List.filter_eq_self.mpr fun c hc => ?_
    obtain ⟨n, hn, rfl⟩ := List.mem_map.mp hc
    simp [(ha.letter_read (hns n hn)).2]
  have hsplit : ∃ n, encodeChars a bytes = (sextets bytes).map (letter a) ++ pad a n := by
    induction bytes using sextets.induct with
    | case1 x y z rest ih =>
      obtain ⟨n, hn⟩ := ih
      exact ⟨n, by simp [encodeChars, sextets, hn]⟩
    | case2 x y => exact ⟨1, rfl⟩
    | case3 x => exact ⟨2, rfl⟩
    | case4 => exact ⟨0, by simp [encodeChars, sextets, pad]⟩
  obtain ⟨n, hn⟩ := hsplit
  rw [hn, List.filter_append, filter_pad, List.append_nil, hletters _ (sextets_lt bytes)]

/-- A text with its padding cut, or some of it, and with blanks put in anywhere. -/
inductive Loosened : List Char → List Char → Prop where
  | done : Loosened [] []
  | keep (c : Char) {text looser : List Char} :
    Loosened text looser → Loosened (c :: text) (c :: looser)
  | unpad {text looser : List Char} : Loosened text looser → Loosened ('=' :: text) looser
  | blank {c : Char} {text looser : List Char} :
    Text.isBlank c = true → Loosened text looser → Loosened text (c :: looser)

theorem Loosened.refl (text : List Char) : Loosened text text := by
  induction text with
  | nil => exact .done
  | cons c text ih => exact .keep c ih

/-- The reader cannot tell a loosened text from the text itself. -/
theorem Loosened.filter {text looser : List Char} (h : Loosened text looser) :
    looser.filter (fun c => !isSkipped c) = text.filter (fun c => !isSkipped c) := by
  induction h with
  | done => rfl
  | keep c _ ih => simp only [List.filter_cons, ih]
  | unpad _ ih =>
    have hpad : isSkipped '=' = true := by decide
    rw [ih, List.filter_cons_of_neg (by simp [hpad])]
  | blank hc _ ih => rw [List.filter_cons_of_neg (by simp [isSkipped, hc]), ih]

/-- **Round trip.** Bytes written in either alphabet are read back from the text, without its
padding and with blanks in it as well. -/
theorem Alphabet.Readable.decode?_loosened (ha : a.Readable) {bytes : Bytes} {looser : List Char}
    (h : Loosened (encode a bytes).toList looser) :
    decode? (String.ofList looser) = some bytes := by
  unfold decode?
  rw [String.toList_ofList, h.filter, encode, String.toList_ofList, ha.filter_encodeChars,
    ha.values?_map (sextets_lt bytes)]
  exact joinSextets_sextets bytes

/-- Padding cut and a line break put in: `aGVsbG8=` becomes `aGVs`, a line feed and `bG8`. -/
example : decode? "aGVs\nbG8" = some [0x68, 0x65, 0x6C, 0x6C, 0x6F] := by decide

end GuestLint.Base64
