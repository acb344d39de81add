import GuestLint.Url.Percent

/-!
# Reading percent encoded text back

A segment of a path is written with every character encoded that a URL could take for something
else, the percent sign among them. So resolving the percent signs gives the bytes of the text, and
a reader of URLs finds nothing in it that it treats apart.

* `percentDecode_encode`: resolving gives back the bytes of the text.
* `IsInert`: a character that readers of paths leave as it is; `inert_encode`: encoded segments
  consist of these.
-/
namespace GuestLint.Url

theorem hexValue?_upperHex : ∀ n < 16, Text.hexValue? (upperHex n) = some n := by decide

/-! ## Resolving -/

theorem percentDecode_byte (b : UInt8) (rest : List Char) :
    percentDecode (encodeByte b ++ rest) = b :: percentDecode rest := by
  have hbyte : b.toNat < 256 := b.toNat_lt
  have hhigh := hexValue?_upperHex (b.toNat / 16) (by omega)
  have hlow := hexValue?_upperHex (b.toNat % 16) (by omega)
  have hsum : b.toNat / 16 * 16 + b.toNat % 16 = b.toNat := by omega
  simp only [encodeByte, List.cons_append, List.nil_append, percentDecode, hhigh, hlow, hsum,
    UInt8.ofNat_toNat]

theorem percentDecode_bytes (bytes : Bytes) (rest : List Char) :
    percentDecode (bytes.flatMap encodeByte ++ rest) = bytes ++ percentDecode rest := by
  induction bytes with
  | nil => rfl
  | cons b bytes ih =>
    rw [List.flatMap_cons, List.append_assoc, percentDecode_byte, ih, List.cons_append]

theorem percentDecode_cons {c : Char} (h : c ≠ '%') (rest : List Char) :
    percentDecode (c :: rest) = String.utf8EncodeChar c ++ percentDecode rest := by
  rw [percentDecode]
  exact fun _ _ _ heq _ => h heq

/-- **Resolving.** What was encoded with the percent sign itself is resolved to the bytes of the
text. -/
theorem percentDecode_encode {set : EncodeSet} (hpercent : set '%' = true)
    (text rest : List Char) : percentDecode (percentEncode set text ++ rest) =
      text.flatMap String.utf8EncodeChar ++ percentDecode rest := by
  induction text with
  | nil => rfl
  | cons c text ih =>
    have hchar : percentDecode (encodeChar set c ++ (percentEncode set text ++ rest)) =
        String.utf8EncodeChar c ++ percentDecode (percentEncode set text ++ rest) := by
      unfold encodeChar
      split
      · exact percentDecode_bytes _ _
      · rename_i hset
        refine percentDecode_cons ?_ _
        rintro rfl
        exact hset hpercent
    rw [percentEncode, List.flatMap_cons, List.append_assoc, List.flatMap_cons, List.append_assoc,
      ← ih]
    exact hchar

/-! ## What readers of paths leave alone -/

/-- A character that stands for itself in a segment of any path. -/
structure IsInert (c : Char) : Prop where
  kept : pathSet c = false
  ne_slash : c ≠ '/'
  ne_backslash : c ≠ '\\'

theorem IsInert.visible {c : Char} (h : IsInert c) : 0x20 < c.toNat := by
  have hkept := h.kept
  unfold pathSet fragmentSet controls at hkept
  simp only [Bool.or_eq_false_iff, decide_eq_false_iff_not, List.mem_cons, not_or] at hkept
  have hspace : c.toNat ≠ 0x20 := fun heq =>
    hkept.1.2.1 (Char.toNat_inj.mp heq)
  omega

theorem upperHex_inert : ∀ n < 16, pathSet (upperHex n) = false ∧ upperHex n ≠ '/' ∧
    upperHex n ≠ '\\' := by decide

theorem inert_encodeByte (b : UInt8) : ∀ c ∈ encodeByte b, IsInert c := by
  have hbyte : b.toNat < 256 := b.toNat_lt
  have hdigit : ∀ n < 16, IsInert (upperHex n) := fun n hn =>
    ⟨(upperHex_inert n hn).1, (upperHex_inert n hn).2.1, (upperHex_inert n hn).2.2⟩
  intro c hc
  simp only [encodeByte, List.mem_cons, List.not_mem_nil, or_false] at hc
  rcases hc with rfl | rfl | rfl
  · exact ⟨by decide, by decide, by decide⟩
  · exact hdigit _ (by omega)
  · exact hdigit _ (by omega)

/-- An encoded segment says nothing to a reader of paths. -/
theorem inert_encode (text : List Char) : ∀ c ∈ percentEncode segmentSet text, IsInert c := by
  intro c hc
  obtain ⟨d, -, hd⟩ := List.mem_flatMap.mp hc
  unfold encodeChar at hd
  split at hd
  · obtain ⟨b, -, hb⟩ := List.mem_flatMap.mp hd
    exact inert_encodeByte b c hb
  · rename_i hset
    obtain rfl := List.mem_singleton.mp hd
    simp only [segmentSet, Bool.or_eq_true, decide_eq_true_eq, List.mem_cons, List.not_mem_nil,
      or_false, not_or] at hset
    exact ⟨by simpa using hset.1, hset.2.1, hset.2.2.2⟩

end GuestLint.Url
