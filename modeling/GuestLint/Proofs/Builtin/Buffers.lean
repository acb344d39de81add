import GuestLint.Builtin.Buffers
import GuestLint.Proofs.Bytes.Encoding
import GuestLint.Proofs.Guest.Heap

/-!
# Buffers and the texts that guests make of them

A guest writes a buffer as text in an encoding that it names, and makes a new buffer of the text
under the same name. With an encoding that keeps every byte, the two buffers hold the same bytes.

* `bufferText_whole`: the text of all the bytes of a buffer.
* `run_newBuffer`, `withBuffer_bytesOf`: a new buffer, and the bytes that it holds.
* `buffer_round_trip`: the encodings on all bytes and texts, and the two guest functions on all
  buffers.
-/
namespace GuestLint.Builtin

open Guest

variable {w : World} {r : Ref} {bytes : Bytes} {name : String} {e : Encoding}

/-! ## Encodings by name -/

/-- The empty text names no encoding, so a name that does stands for itself. -/
theorem encodingArg_text (hname : Encoding.ofName? name = some e) :
    encodingArg (.text name) = .text name := by
  have hempty : Encoding.ofName? "" = none := by decide
  have hne : name ≠ "" := by
    rintro rfl
    rw [hempty] at hname
    cases hname
  simp [encodingArg, orElse, Value.isTruthy, hne]

theorem encodeText_text (hname : Encoding.ofName? name = some e) (text : String) :
    encodeText (.text text) (.text name) = pure (e.encode text) := by
  simp [encodeText, textArg, hname]

theorem decodeBytes_text (hname : Encoding.ofName? name = some e) (content : Bytes) :
    decodeBytes content (.text name) = pure (e.decode content) := by
  simp [decodeBytes, textArg, hname]

/-! ## Reading a buffer -/

theorem slice_whole {α : Type} (items : List α) :
    Block.slice items 0 (Int.ofNat items.length) = items := by
  have hlast : Block.position items.length (Int.ofNat items.length) = items.length := by
    have hsign : ¬ (Int.ofNat items.length < 0) := Int.not_lt.mpr (Int.natCast_nonneg _)
    rw [Block.position, if_neg hsign]
    exact Nat.min_self _
  rw [Block.slice, hlast]
  simp [Block.position]

theorem run_bytesArg (hbytes : w.heap.bytesOf r = some bytes) :
    run w (bytesArg (.object r)) = (.ok bytes, w) := by
  unfold bytesArg
  rw [run_bind_ok (run_heap w), hbytes]
  rfl

/-- The text of all the bytes of a buffer. -/
theorem bufferText_whole (call : Call) (hname : Encoding.ofName? name = some e) (content : Bytes) :
    bufferText call content [.text name] = pure (e.decode content) := by
  unfold bufferText
  simp only [argAt, List.getD_cons_zero, List.getD_cons_succ, List.getD_nil, pure_bind]
  have hwhole : Block.slice content (Int.ofNat 0) (Int.ofNat content.length) = content :=
    slice_whole content
  rw [encodingArg_text hname, decodeBytes_text hname, hwhole]

/-! ## A new buffer -/

/-- The world with a new buffer: its block, and a view of the whole of it. -/
def withBuffer (w : World) (content : Bytes) : World :=
  let store : Object := ⟨.byteStore content, some Place.byteStoreParent, []⟩
  let view : Object := ⟨.bytes w.heap.size 0 content.length, some Place.bufferParent, []⟩
  { w with heap := (w.heap.push store).push view }

theorem run_newBuffer (w : World) (content : Bytes) :
    run w (newBuffer content) = (.ok (.object (w.heap.size + 1)), withBuffer w content) := by
  unfold newBuffer makeBytes
  rw [run_bind_ok (run_allocate w _), ← bind_pure_comp, run_bind_ok (run_allocate _ _)]
  simp [withBuffer]

theorem withBuffer_at (w : World) (content : Bytes) :
    (withBuffer w content).heap.at_ (w.heap.size + 1) =
      ⟨.bytes w.heap.size 0 content.length, some Place.bufferParent, []⟩ := by
  unfold withBuffer
  rw [Heap.at_push, if_pos (by simp)]

theorem withBuffer_store_at (w : World) (content : Bytes) :
    (withBuffer w content).heap.at_ w.heap.size =
      ⟨.byteStore content, some Place.byteStoreParent, []⟩ := by
  unfold withBuffer
  rw [Heap.at_push_lt _ (by simp), Heap.at_push_self]

/-- A new buffer holds the bytes that it was made of. -/
theorem withBuffer_bytesOf (w : World) (content : Bytes) :
    (withBuffer w content).heap.bytesOf (w.heap.size + 1) = some content := by
  simp [Heap.bytesOf, withBuffer_at, withBuffer_store_at]

theorem run_bufferFrom (call : Call) (w : World) (hname : Encoding.ofName? name = some e)
    (text : String) :
    run w (bufferFrom call [.text text, .text name]) =
      (.ok (.object (w.heap.size + 1)), withBuffer w (e.encode text)) := by
  unfold bufferFrom
  simp only [argAt, List.getD_cons_zero, List.getD_cons_succ]
  rw [encodingArg_text hname, encodeText_text hname, pure_bind, run_newBuffer]

/-- **Round trip.** An encoding that keeps every byte reads all bytes back from their text; the base
64 encodings read each other's texts, without their padding and with blanks in them as well; and
UTF-8 reads all texts back from their bytes. So when a guest writes a buffer as text, and at any
time makes a buffer of the text under the same name, the new buffer holds the same bytes. -/
theorem buffer_round_trip :
    (∀ e : Encoding, e.Faithful → ∀ bytes, e.encode (e.decode bytes) = bytes) ∧
    (∀ writer reader : Encoding, writer.IsBase64 → reader.IsBase64 → ∀ bytes looser,
      Base64.Loosened (writer.decode bytes).toList looser →
        reader.encode (String.ofList looser) = bytes) ∧
    (∀ text, Encoding.utf8.decode (Encoding.utf8.encode text) = text) ∧
    (∀ name e, Encoding.ofName? name = some e → e.Faithful →
      ∀ (call : Call) w r bytes, w.heap.bytesOf r = some bytes →
        ∃ text, run w (runBuffer call .toString (.object r) [.text name]) = (.ok (.text text), w) ∧
          ∀ later this, ∃ r' w',
            run later (runBuffer call .from this [.text text, .text name]) =
              (.ok (.object r'), w') ∧
            w'.heap.bytesOf r' = some bytes ∧
            (w'.heap.at_ r').parent = some Place.bufferParent) := by
  refine ⟨fun e he bytes => he.encode_decode bytes,
    fun _ _ hw hr bytes _ h => Encoding.encode_loosened hw hr bytes h,
    Utf8.decodeLossy_encode, ?_⟩
  intro name e hname he call w r bytes hbytes
  refine ⟨e.decode bytes, ?_, fun later this => ?_⟩
  · show run w (bytesArg (.object r) >>= fun content =>
      Value.text <$> bufferText call content [.text name]) = _
    rw [run_bind_ok (run_bytesArg hbytes), bufferText_whole call hname]
    rfl
  · refine ⟨_, _, run_bufferFrom call later hname (e.decode bytes), ?_, ?_⟩
    · rw [withBuffer_bytesOf, he.encode_decode]
    · rw [withBuffer_at]

/-- A world with one buffer, of three bytes. -/
def bufferWorld : World :=
  withBuffer { heap := #[], surroundings := bareSurroundings } [0, 0x7F, 0xFF]

/-- The buffer is written as digits, and a buffer of the digits holds the same bytes. -/
theorem buffer_round_trip_hex :
    Encoding.ofName? "HEX" = some .hex ∧ bufferWorld.heap.bytesOf 1 = some [0, 0x7F, 0xFF] ∧
    ∃ text, run bufferWorld (runBuffer idleCall .toString (.object 1) [.text "HEX"]) =
        (.ok (.text text), bufferWorld) ∧
      ∃ r' w', run bufferWorld (runBuffer idleCall .from .undefined [.text text, .text "HEX"]) =
          (.ok (.object r'), w') ∧
        w'.heap.bytesOf r' = some [0, 0x7F, 0xFF] := by
  have hname : Encoding.ofName? "HEX" = some .hex := by decide
  have hbytes : bufferWorld.heap.bytesOf 1 = some [0, 0x7F, 0xFF] := withBuffer_bytesOf _ _
  obtain ⟨-, -, -, hguest⟩ := buffer_round_trip
  obtain ⟨text, hshown, hmade⟩ := hguest "HEX" .hex hname (.inl rfl) idleCall bufferWorld 1 _ hbytes
  obtain ⟨r', w', hrun, hsame, -⟩ := hmade bufferWorld .undefined
  exact ⟨hname, hbytes, text, hshown, r', w', hrun, hsame⟩

end GuestLint.Builtin
