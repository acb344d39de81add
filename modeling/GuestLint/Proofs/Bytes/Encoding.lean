import GuestLint.Bytes.Encoding
import GuestLint.Proofs.Bytes.Base64
import GuestLint.Proofs.Bytes.Utf8

/-!
# Encodings that keep every byte

Four of the encodings write any bytes as a text that holds all of them, and UTF-8 writes any text as
bytes that hold all of it.

* `Encoding.Faithful`: the encodings that keep every byte.
* `Hex.decode_encode`: pairs of digits are read back.
* `Encoding.Faithful.encode_decode`: all four of them.
* `Encoding.encode_loosened`: the base 64 encodings read each other's texts.
-/
namespace GuestLint

/-! ## Hexadecimal digits -/

namespace Hex

/-- A digit is one byte, which is read as its value. -/
theorem digit_read {n : Nat} (hn : n < 16) :
    String.utf8EncodeChar (Text.hexDigit n) = [UInt8.ofNat (Text.hexDigit n).toNat] ∧
      nibble? (UInt8.ofNat (Text.hexDigit n).toNat) = some n := by
  revert n
  decide

theorem decodePairs_digitsOf (b : UInt8) (rest : Bytes) :
    decodePairs ((digitsOf b).flatMap String.utf8EncodeChar ++ rest) = b :: decodePairs rest := by
  have hb := b.toNat_lt
  obtain ⟨hhigh, hhighRead⟩ := digit_read (n := b.toNat / 16) (by omega)
  obtain ⟨hlow, hlowRead⟩ := digit_read (n := b.toNat % 16) (by omega)
  have hbyte : UInt8.ofNat (b.toNat / 16 * 16 + b.toNat % 16) = b := by
    rw [Nat.div_add_mod', UInt8.ofNat_toNat]
  simp only [digitsOf, List.flatMap_cons, List.flatMap_nil, hhigh, hlow, List.append_nil,
    List.cons_append, List.nil_append]
  rw [decodePairs, hhighRead, hlowRead]
  dsimp only
  rw [hbyte]

theorem decode_encode (bytes : Bytes) : decode (encode bytes) = bytes := by
  rw [decode, encode, Utf8.encode, String.toList_ofList]
  induction bytes with
  | nil => rfl
  | cons b bytes ih => rw [List.flatMap_cons, List.flatMap_append, decodePairs_digitsOf, ih]

end Hex

/-! ## Encodings -/

namespace Encoding

/-- Whether an encoding keeps every byte of what it writes as text. -/
def Faithful (e : Encoding) : Prop := e = hex ∨ e = base64 ∨ e = base64Url ∨ e = latin1

/-- Whether an encoding writes base 64. -/
def IsBase64 (e : Encoding) : Prop := e = base64 ∨ e = base64Url

/-- Base 64 is read back by either encoding from a text that either has written, without its padding
and with blanks in it as well. -/
theorem encode_loosened {writer reader : Encoding} (hw : writer.IsBase64) (hr : reader.IsBase64)
    (bytes : Bytes) {looser : List Char}
    (h : Base64.Loosened (writer.decode bytes).toList looser) :
    reader.encode (String.ofList looser) = bytes := by
  have hread : Base64.decode? (String.ofList looser) = some bytes := by
    rcases hw with rfl | rfl
    · exact Base64.readable_standard.decode?_loosened h
    · exact Base64.readable_urlSafe.decode?_loosened h
  rcases hr with rfl | rfl <;> simp [encode, hread]

theorem encode_decode_latin1 (bytes : Bytes) : latin1.encode (latin1.decode bytes) = bytes := by
  have hbyte : ∀ b : UInt8, UInt8.ofNat (Char.ofNat b.toNat).toNat = b := fun b => by
    rw [Utf8.toNat_charOfNat, UInt8.ofNat_toNat]
  simp [encode, decode, Function.comp_def, hbyte]

/-- **Round trip.** Bytes are read back from the text that they are written as. -/
theorem Faithful.encode_decode {e : Encoding} (he : e.Faithful) (bytes : Bytes) :
    e.encode (e.decode bytes) = bytes := by
  rcases he with rfl | rfl | rfl | rfl
  · exact Hex.decode_encode bytes
  · simpa using encode_loosened (.inl rfl) (.inl rfl) bytes (Base64.Loosened.refl _)
  · simpa using encode_loosened (.inr rfl) (.inr rfl) bytes (Base64.Loosened.refl _)
  · exact encode_decode_latin1 bytes

end Encoding
end GuestLint
