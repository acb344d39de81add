import GuestLint.Proofs.Builtin.Buffers
import GuestLint.Proofs.Bytes.Block
import GuestLint.Proofs.Number.Double

/-!
# Writing texts into buffers

A guest writes a text into a buffer at an offset, and may say how many bytes it wants written. The
answer is that number, or the number of the bytes that there are or that fit.

* `rewrites_replaceBytes`: the bytes that a view shows are replaced, and nothing else changes.
* `run_write_fits`, `run_write_refused`: both outcomes of a write.
* `written_iff`: a write answers how many bytes it has written unless its length is negative.
-/
namespace GuestLint.Builtin

open Guest
open Block (spliced transferred Fits)

variable {call : Call} {w w' : World} {r : Ref} {bytes content : Bytes} {name : String}
  {e : Encoding}

/-! ## Replacing the bytes of a buffer -/

/-- A buffer shows other bytes now, and nothing else has changed: no other object than its block,
and nothing around the buffer in its block. -/
structure Rewrites (w w' : World) (r : Ref) (content : Bytes) : Prop where
  shown : w'.heap.bytesOf r = some content
  elsewhere : ∀ q, (∀ first size, (w.heap.at_ r).kind ≠ .bytes q first size) →
    w'.heap.at_ q = w.heap.at_ q
  around : ∀ store first size all, (w.heap.at_ r).kind = .bytes store first size →
    (w.heap.at_ store).kind = .byteStore all → (w'.heap.at_ store).kind =
      .byteStore (all.take first ++ content ++ all.drop (first + size))

theorem window_window {all content : Bytes} {first size : Nat}
    (h : content.length = ((all.drop first).take size).length) :
    (((all.take first ++ content ++ all.drop (first + size)).drop first).take size) = content := by
  rw [List.length_take, List.length_drop] at h
  apply List.ext_getElem?
  intro i
  grind

/-- A block with other bytes where a view shows them. -/
def patched (first size : Nat) (content : Bytes) (o : Object) : Object :=
  match o.kind with
  | .byteStore all =>
    { o with kind := .byteStore (all.take first ++ content.take size ++ all.drop (first + size)) }
  | _ => o

/-- What is no block stays as it is. -/
theorem modify_patched_of_ne {h : Heap} {store first size : Nat}
    (hnone : ∀ all, (h.at_ store).kind ≠ .byteStore all) (content : Bytes) (q : Ref) :
    (h.modify store (patched first size content)).at_ q = h.at_ q := by
  rw [Heap.at_modify]
  split
  · rename_i hq
    rw [patched, hq.1]
    split
    · rename_i all heq
      exact absurd heq (hnone all)
    · rfl
  · rfl

theorem run_replaceBytes {store first size : Nat}
    (hview : (w.heap.at_ r).kind = .bytes store first size) (content : Bytes) :
    run w (replaceBytes r content) =
      (.ok (), { w with heap := w.heap.modify store (patched first size content) }) := by
  unfold replaceBytes
  rw [run_bind_ok (run_heap w), hview]
  exact run_modifyObject w store _

theorem rewrites_replaceBytes (hbytes : w.heap.bytesOf r = some bytes)
    (hlength : content.length = bytes.length) :
    ∃ w', run w (replaceBytes r content) = (.ok (), w') ∧ Rewrites w w' r content := by
  unfold Heap.bytesOf at hbytes
  split at hbytes
  · rename_i store first size hview
    refine ⟨_, run_replaceBytes hview content, ?_⟩
    split at hbytes
    · rename_i all hstore
      have hne : r ≠ store := by
        rintro rfl
        rw [hview] at hstore
        cases hstore
      obtain rfl : (all.drop first).take size = bytes := Option.some.inj hbytes
      have htake : content.take size = content := by
        refine List.take_of_length_le ?_
        rw [hlength, List.length_take]
        omega
      have hlt : store < w.heap.size := w.heap.lt_of_kind (by rw [hstore]; exact nofun)
      have hpatched : (((w.heap.modify store (patched first size content)).at_ store)).kind =
          .byteStore (all.take first ++ content ++ all.drop (first + size)) := by
        rw [Heap.at_modify_self _ hlt, patched, hstore, htake]
      refine ⟨?_, fun q hq => Heap.at_modify_ne _ ?_ _, ?_⟩
      · unfold Heap.bytesOf
        rw [Heap.at_modify_ne _ hne, hview]
        simp only [hpatched, window_window hlength]
      · rintro rfl
        exact hq _ _ hview
      · intro store' first' size' all' hview' hstore'
        cases hview.symm.trans hview'
        cases hstore.symm.trans hstore'
        exact hpatched
    · -- a view of something else than a block shows nothing
      rename_i hnone
      obtain rfl : bytes = [] := (Option.some.inj hbytes).symm
      obtain rfl : content = [] := List.length_eq_zero_iff.mp hlength
      have hsame : ∀ q, (w.heap.modify store (patched first size [])).at_ q = w.heap.at_ q :=
        modify_patched_of_ne hnone []
      refine ⟨?_, fun q _ => hsame q, ?_⟩
      · simp only [Heap.bytesOf, hsame, hview]
      · intro store' first' size' all' hview' hstore'
        cases hview.symm.trans hview'
        exact absurd hstore' (hnone _)
  · cases hbytes

/-! ## Integers as arguments -/

theorem toNumber_number (x : Double) : toNumber call (.number x) = pure x := rfl

/-- An offset of zero may as well be left out. -/
theorem orElse_integer {x : Double} {n : Int} (hx : x.integer? = some n) :
    ∃ y, orElse (.number x) (.ofNat 0) = .number y ∧ y.integer? = some n := by
  unfold orElse
  split
  · exact ⟨x, rfl, hx⟩
  · rename_i hfalse
    refine ⟨_, rfl, ?_⟩
    obtain ⟨negative, m, e, num, hview, hnum, rfl⟩ := Double.view_of_integer? hx
    obtain rfl : m = 0 := by simpa [Value.isTruthy, Double.isTruthy, hview] using hfalse
    rw [Double.IsNatural.eq_zero hnum, Double.signed_zero]
    exact Double.integer?_ofInt (by decide)

/-- The length of a write: left out, or an integer. -/
inductive LengthArg : Value → Option Int → Prop
  | omitted : LengthArg .undefined none
  | given {x : Double} {n : Int} (hx : x.integer? = some n) : LengthArg (.number x) (some n)

/-! ## What a write accounts for -/

/-- What a write of a text may come to: it throws and no object has changed, or it answers how many
of the text's first bytes stand at the offset now, in place of as many others, with every other byte
as it was. -/
inductive Accounted (w : World) (r : Ref) (bytes encoded : Bytes) (offset : Int) :
    Except Stop Value × World → Prop
  | refused {v : Value} {w' : World} (hheap : ∀ q < w.heap.size, w'.heap.at_ q = w.heap.at_ q)
      (hbytes : w'.heap.bytesOf r = some bytes) :
      Accounted w r bytes encoded offset (.error (.thrown v), w')
  | written {w' : World} {content : Bytes} {start n : Nat} (hstart : offset = start)
      (hn : n ≤ encoded.length) (hroom : start + n ≤ bytes.length)
      (hchange : Rewrites w w' r content)
      (hcontent : ∀ i, content[i]? =
        if start ≤ i ∧ i < start + n then encoded[i - start]? else bytes[i]?) :
      Accounted w r bytes encoded offset (.ok (.ofNat n), w')

/-- No number of bytes is negative. -/
theorem ofInt_ne_ofNat {x : Double} {k : Int} (hx : x.integer? = some k) (hk : k < 0) {n : Nat}
    (hn : n < 2 ^ 53) : Value.ofInt k ≠ .ofNat n := by
  intro heq
  injection heq with heq
  rw [Double.ofInt_of_integer? hx (by omega)] at heq
  have hinteger := Double.integer?_ofInt (n := n) (by simpa using hn)
  have hsame : x.integer? = some (n : Int) := heq ▸ hinteger
  rw [hx] at hsame
  cases hsame
  omega

theorem Accounted.of_ok {encoded : Bytes} {offset : Int} {v : Value}
    (h : Accounted w r bytes encoded offset (.ok v, w')) :
    ∃ n : Nat, v = .ofNat n ∧ n ≤ bytes.length := by
  cases h with
  | written _ _ hroom _ _ => exact ⟨_, rfl, by omega⟩

/-! ## Writing -/

theorem writeBuffer_eq (hname : Encoding.ofName? name = some e) (text : String) {x : Double}
    {offset : Int} (hx : x.integer? = some offset) {v : Value} {length : Option Int}
    (hlength : LengthArg v length) :
    writeBuffer call r bytes [.text text, .number x, v, .text name] =
      match Block.write bytes (e.encode text) x.toInt64 length with
      | .ok (count, content) => do
        replaceBytes r content
        pure (.ofInt count)
      | .error e => raise "RangeError" e.message := by
  obtain ⟨y, horElse, hy⟩ := orElse_integer hx
  have hsame : y.toInt64 = x.toInt64 := by
    rw [Double.toInt64_of_integer? hx, Double.toInt64_of_integer? hy]
  unfold writeBuffer
  simp only [argAt, List.getD_cons_zero, List.getD_cons_succ, encodingArg_text hname,
    encodeText_text hname, horElse, toNumber_number, pure_bind, hsame, hy, Option.isSome_some]
  cases hlength with
  | omitted =>
    simp only [and_self, if_true, Option.bind_none]
    cases Block.write bytes (e.encode text) x.toInt64 none <;> rfl
  | given hz =>
    simp only [toNumber_number, map_pure, pure_bind, hz, Option.isSome_some, and_self, if_true,
      Option.bind_some]
    cases Block.write bytes (e.encode text) x.toInt64 (some _) <;> rfl

/-- No buffer shows anything else once an error has been made. -/
theorem bytesOf_push_error {h : Heap} (hbytes : h.bytesOf r = some bytes) (frames : List Frame)
    (name message : String) :
    Heap.bytesOf (h.push (errorAt frames name message)) r = some bytes := by
  have hr : r < h.size := by
    refine Heap.lt_of_kind _ fun hplain => ?_
    rw [Heap.bytesOf, hplain] at hbytes
    cases hbytes
  unfold Heap.bytesOf at hbytes ⊢
  rw [Heap.at_push_lt _ hr]
  split at hbytes
  · rename_i store first size hview
    simp only [Heap.at_push]
    by_cases hstore : store = h.size
    · -- there was no block at the place of the error
      have hnone : h.at_ store = {} := by
        rw [Heap.at_, Array.getElem?_eq_none (Nat.le_of_eq hstore.symm)]
        rfl
      rw [hnone] at hbytes
      rw [if_pos hstore]
      exact hbytes
    · rw [if_neg hstore]
      exact hbytes
  · cases hbytes

/-- An offset beyond 64 bits is clamped, but there is no room there anyway. -/
theorem write_toInt64 (hsize : bytes.length ≤ maxBufferLength) {x : Double} {offset : Int}
    (hx : x.integer? = some offset) (encoded : Bytes) (length : Option Int) :
    Block.write bytes encoded x.toInt64 length = Block.write bytes encoded offset length := by
  have hclamped := Double.toInt64_of_integer? hx
  have hmax : bytes.length ≤ 0x7FFFFFFF := hsize
  by_cases hrange : -0x8000000000000000 ≤ offset ∧ offset ≤ 0x7FFFFFFFFFFFFFFF
  · have hsame : x.toInt64 = offset := by omega
    rw [hsame]
  · rw [Block.write_eq, Block.write_eq, if_neg (Block.not_fits (by omega)),
      if_neg (Block.not_fits (by omega))]

section

variable (hbytes : w.heap.bytesOf r = some bytes) (hsize : bytes.length ≤ maxBufferLength)
  (hname : Encoding.ofName? name = some e) (text : String) {x : Double} {offset : Int}
  (hx : x.integer? = some offset) {v : Value} {length : Option Int} (hlength : LengthArg v length)

include hbytes hsize hname hx hlength

theorem run_write (call : Call) :
    run w (runBuffer call .write (.object r) [.text text, .number x, v, .text name]) =
      run w (match Block.write bytes (e.encode text) offset length with
      | .ok (count, content) => do
        replaceBytes r content
        pure (.ofInt count)
      | .error e => raise "RangeError" e.message) := by
  rw [← write_toInt64 hsize hx, ← writeBuffer_eq hname text hx hlength]
  show run w (bytesArg (.object r) >>= fun content => _) = _
  rw [run_bind_ok (run_bytesArg hbytes)]
  rfl

/-- With room for it, the text is put into the buffer. -/
theorem run_write_fits (call : Call) (hfits : Fits bytes.length (e.encode text) offset length) :
    ∃ w', run w (runBuffer call .write (.object r) [.text text, .number x, v, .text name]) =
        (.ok (.ofInt (min (e.encode text).length (length.getD (bytes.length - offset)))), w') ∧
      Rewrites w w' r
        (spliced bytes (transferred bytes.length (e.encode text) offset length) offset.toNat) := by
  have hroom : offset.toNat + (transferred bytes.length (e.encode text) offset length).length ≤
      bytes.length := by
    have hroom := hfits.2
    have hstart := hfits.1
    omega
  obtain ⟨w', hrun, hrewrites⟩ := rewrites_replaceBytes hbytes (Block.length_spliced hroom)
  refine ⟨w', ?_, hrewrites⟩
  rw [run_write hbytes hsize hname text hx hlength, Block.write_eq, if_pos hfits]
  exact run_bind_ok hrun _

/-- Without room for it, the text is refused. -/
theorem run_write_refused (call : Call)
    (hfits : ¬ Fits bytes.length (e.encode text) offset length) :
    run w (runBuffer call .write (.object r) [.text text, .number x, v, .text name]) =
      (.error (.thrown (.object w.heap.size)),
        { w with heap := w.heap.push (errorAt w.frames "RangeError" "invalid offset") }) := by
  rw [run_write hbytes hsize hname text hx hlength, Block.write_eq, if_neg hfits]
  exact run_raise ..

theorem accounted_of_not_fits (call : Call)
    (hfits : ¬ Fits bytes.length (e.encode text) offset length) :
    Accounted w r bytes (e.encode text) offset
      (run w (runBuffer call .write (.object r) [.text text, .number x, v, .text name])) := by
  rw [run_write_refused hbytes hsize hname text hx hlength call hfits]
  exact .refused (fun q hq => Heap.at_push_lt _ hq _) (bytesOf_push_error hbytes _ _ _)

/-- A write that is asked for no negative number of bytes answers how many it has written. -/
theorem accounted_of_fits (call : Call)
    (hfits : Fits bytes.length (e.encode text) offset length)
    (hasked : 0 ≤ length.getD (bytes.length - offset)) :
    Accounted w r bytes (e.encode text) offset
      (run w (runBuffer call .write (.object r) [.text text, .number x, v, .text name])) := by
  obtain ⟨w', hrun, hchange⟩ := run_write_fits hbytes hsize hname text hx hlength call hfits
  obtain ⟨n, hn, hcount, htransferred⟩ := Block.transferred_of_nonneg hasked
  obtain ⟨hstart, hroom⟩ := hfits
  have hlen : ((e.encode text).take n).length = n := List.length_take_of_le hn
  rw [htransferred] at hchange hroom
  rw [hlen] at hroom
  rw [hrun, hcount]
  refine .written (Int.toNat_of_nonneg hstart).symm hn (by omega) hchange fun i => ?_
  rw [Block.getElem?_spliced (by omega), hlen]
  split
  · exact List.getElem?_take_of_lt (by omega)
  · rfl

end

/-- A write that is asked for a negative number of bytes, and finds room, answers that number. -/
theorem not_accounted_of_negative (call : Call) (hbytes : w.heap.bytesOf r = some bytes)
    (hsize : bytes.length ≤ maxBufferLength) (hname : Encoding.ofName? name = some e)
    (text : String) {x y : Double} {offset k : Int} (hx : x.integer? = some offset)
    (hy : y.integer? = some k) (hk : k < 0)
    (hfits : Fits bytes.length (e.encode text) offset (some k)) :
    ¬ Accounted w r bytes (e.encode text) offset
      (run w (runBuffer call .write (.object r)
        [.text text, .number x, .number y, .text name])) := by
  intro h
  obtain ⟨w', hrun, -⟩ := run_write_fits hbytes hsize hname text hx (.given hy) call hfits
  have hcount : min ((e.encode text).length : Int) ((some k).getD (bytes.length - offset)) = k := by
    simp only [Option.getD_some]
    omega
  rw [hrun, hcount] at h
  obtain ⟨n, hsame, hn⟩ := h.of_ok
  have hmax : bytes.length ≤ 0x7FFFFFFF := hsize
  exact ofInt_ne_ofNat hy hk (by omega) hsame

/-- **Writing.** A write of a text at an offset, with a length or without one, accounts for what it
does if and only if its length is not negative, or there is no room. With room for it, the first
bytes of the text stand at the offset, as many as the length asks for and the text has, or as many
as fit; but a negative length leaves out as many bytes at the end of the text, and is answered
itself. Without room for it the write throws, and no object changes. -/
theorem written_iff (call : Call) (hbytes : w.heap.bytesOf r = some bytes)
    (hsize : bytes.length ≤ maxBufferLength) (hname : Encoding.ofName? name = some e)
    (text : String) {x : Double} {offset : Int} (hx : x.integer? = some offset) {v : Value}
    {length : Option Int} (hlength : LengthArg v length) :
    (Accounted w r bytes (e.encode text) offset
        (run w (runBuffer call .write (.object r) [.text text, .number x, v, .text name])) ↔
      ∀ k, length = some k → k < 0 → ¬ Fits bytes.length (e.encode text) offset length) ∧
    (Fits bytes.length (e.encode text) offset length → ∃ w',
      run w (runBuffer call .write (.object r) [.text text, .number x, v, .text name]) =
        (.ok (.ofInt (min (e.encode text).length (length.getD (bytes.length - offset)))), w') ∧
      Rewrites w w' r
        (spliced bytes (transferred bytes.length (e.encode text) offset length) offset.toNat)) ∧
    (¬ Fits bytes.length (e.encode text) offset length → ∃ error w',
      run w (runBuffer call .write (.object r) [.text text, .number x, v, .text name]) =
        (.error (.thrown error), w')) := by
  refine ⟨⟨fun h k hk hneg hfits => ?_, fun h => ?_⟩,
    run_write_fits hbytes hsize hname text hx hlength call, fun hfits =>
      ⟨_, _, run_write_refused hbytes hsize hname text hx hlength call hfits⟩⟩
  · cases hlength with
    | omitted => cases hk
    | given hy =>
      cases hk
      exact not_accounted_of_negative call hbytes hsize hname text hx hy hneg hfits h
  · by_cases hfits : Fits bytes.length (e.encode text) offset length
    · have hasked := hfits.asked_nonneg fun k hk => Int.not_lt.mp fun hneg => h k hk hneg hfits
      exact accounted_of_fits hbytes hsize hname text hx hlength call hfits hasked
    · exact accounted_of_not_fits hbytes hsize hname text hx hlength call hfits

/-- A world with one buffer, of five zeros. -/
def zerosWorld : World :=
  withBuffer { heap := #[], surroundings := bareSurroundings } [0, 0, 0, 0, 0]

theorem zerosWorld_bytesOf : zerosWorld.heap.bytesOf 1 = some [0, 0, 0, 0, 0] :=
  withBuffer_bytesOf _ _

/-- Of five bytes two fit behind the third byte of the buffer. -/
theorem written_iff_cut :
    Encoding.ofName? "hex" = some .hex ∧ (Double.ofInt 3).integer? = some 3 ∧
    Accounted zerosWorld 1 [0, 0, 0, 0, 0] [0x68, 0x65, 0x6C, 0x6C, 0x6F] 3
      (run zerosWorld (runBuffer idleCall .write (.object 1)
        [.text "68656c6c6f", .ofInt 3, .undefined, .text "hex"])) := by
  have hname : Encoding.ofName? "hex" = some .hex := by decide
  have hthree : (Double.ofInt 3).integer? = some 3 := Double.integer?_ofInt (by decide)
  have hencoded : Encoding.hex.encode "68656c6c6f" = [0x68, 0x65, 0x6C, 0x6C, 0x6F] := by decide
  obtain ⟨hiff, -, -⟩ := written_iff idleCall zerosWorld_bytesOf (by decide) hname "68656c6c6f"
    hthree .omitted
  rw [hencoded] at hiff
  exact ⟨hname, hthree, hiff.mpr fun k hk => absurd hk (by simp)⟩

/-- With a length of minus two the first three bytes are written, and minus two is answered. -/
theorem negative_count :
    ∃ w', run zerosWorld (runBuffer idleCall .write (.object 1)
        [.text "hello", .ofInt 0, .ofInt (-2), .text "utf8"]) = (.ok (.ofInt (-2)), w') ∧
      w'.heap.bytesOf 1 = some [0x68, 0x65, 0x6C, 0, 0] ∧
      ¬ Accounted zerosWorld 1 [0, 0, 0, 0, 0] (Encoding.utf8.encode "hello") 0
        (.ok (.ofInt (-2)), w') := by
  have hname : Encoding.ofName? "utf8" = some .utf8 := by decide
  have hzero : (Double.ofInt 0).integer? = some 0 := Double.integer?_ofInt (by decide)
  have hminus : (Double.ofInt (-2)).integer? = some (-2) := Double.integer?_ofInt (by decide)
  obtain ⟨w', hrun, hrewrites⟩ := run_write_fits zerosWorld_bytesOf (by decide) hname "hello" hzero
    (.given hminus) idleCall (by decide)
  refine ⟨w', hrun, hrewrites.shown, fun h => ?_⟩
  obtain ⟨n, hsame, hn⟩ := h.of_ok
  exact ofInt_ne_ofNat hminus (by decide) (Nat.lt_of_le_of_lt hn (by decide)) hsame

end GuestLint.Builtin
