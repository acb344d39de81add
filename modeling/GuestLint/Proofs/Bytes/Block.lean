import GuestLint.Bytes.Block

/-!
# Blocks of bytes, joined and written into

* `fillFrom_eq`: blocks one after another, cut or filled with zeros.
* `overwrite_eq`: when bytes fit at an offset, and the block that results.
* `write_eq`: how many bytes of a text are written, and what is answered.
-/
namespace GuestLint.Block

/-! ## Joining -/

/-- Room is filled with the first bytes of all the blocks, and with zeros behind them. -/
theorem fillFrom_eq (room : Nat) (blocks : List Bytes) :
    fillFrom room blocks = (blocks.flatten ++ List.replicate room 0).take room := by
  induction blocks generalizing room with
  | nil => simp [fillFrom]
  | cons block rest ih =>
    unfold fillFrom
    split
    · rename_i hroom
      simp [hroom]
    · rw [ih, List.flatten_cons, List.append_assoc, List.take_append, List.take_append,
        List.take_append, List.take_replicate, List.take_replicate]
      congr 3
      omega

/-! ## Writing -/

/-- A block with other bytes from a position on. -/
def spliced (block bytes : Bytes) (start : Nat) : Bytes :=
  block.take start ++ bytes ++ block.drop (start + bytes.length)

/-- Every byte of a block into which bytes are put: the new one within them, and the old one
elsewhere. -/
theorem getElem?_spliced {block bytes : Bytes} {start : Nat}
    (h : start + bytes.length ≤ block.length) (i : Nat) :
    (spliced block bytes start)[i]? =
      if start ≤ i ∧ i < start + bytes.length then bytes[i - start]? else block[i]? := by
  have hstart : (block.take start).length = start := by
    rw [List.length_take]
    omega
  unfold spliced
  grind

theorem length_spliced {block bytes : Bytes} {start : Nat}
    (h : start + bytes.length ≤ block.length) :
    (spliced block bytes start).length = block.length := by
  simp only [spliced, List.length_append, List.length_take, List.length_drop]
  omega

theorem overwrite_eq (block bytes : Bytes) (offset : Int) :
    overwrite block bytes offset =
      if 0 ≤ offset ∧ offset + bytes.length ≤ block.length
      then .ok (spliced block bytes offset.toNat) else .error {} := by
  unfold overwrite
  split
  · rename_i hout
    rw [if_neg]
    simp only [Int.ofNat_eq_natCast] at hout
    omega
  · rename_i hin
    rw [if_pos]
    · rfl
    · simp only [Int.ofNat_eq_natCast] at hin
      omega

theorem slice_zero {α : Type} (items : List α) (stop : Int) :
    slice items 0 stop = items.take (position items.length stop) := by
  have hzero : position items.length 0 = 0 := by simp [position]
  rw [slice, hzero]
  rfl

/-- A number of elements to take need not be cut to the number of those that there are. -/
theorem position_min (length : Nat) (p : Int) :
    position length (min (Int.ofNat length) p) = position length p := by
  simp only [position, Int.ofNat_eq_natCast]
  split <;> split <;> omega

theorem position_of_nonneg {length : Nat} {p : Int} (h : 0 ≤ p) :
    position length p = min p.toNat length := by
  rw [position, if_neg (Int.not_lt.mpr h)]

/-- The bytes of a text that a write puts into a block: as many as its length asks for, where a
negative length leaves out as many at the end, or as many as fit. -/
def transferred (size : Nat) (encoded : Bytes) (offset : Int) (length : Option Int) : Bytes :=
  encoded.take (position encoded.length (length.getD (size - offset)))

/-- Unless its length is negative, a write takes the first bytes of a text. -/
theorem transferred_of_nonneg {size : Nat} {encoded : Bytes} {offset : Int} {length : Option Int}
    (h : 0 ≤ length.getD (size - offset)) :
    ∃ n : Nat, n ≤ encoded.length ∧
      min (encoded.length : Int) (length.getD (size - offset)) = n ∧
      transferred size encoded offset length = encoded.take n := by
  refine ⟨min (length.getD (size - offset)).toNat encoded.length, Nat.min_le_right .., ?_, ?_⟩
  · omega
  · rw [transferred, position_of_nonneg h]

/-- There is room for what a write puts into a block. -/
def Fits (size : Nat) (encoded : Bytes) (offset : Int) (length : Option Int) : Prop :=
  0 ≤ offset ∧ offset + (transferred size encoded offset length).length ≤ size

instance (size : Nat) (encoded : Bytes) (offset : Int) (length : Option Int) :
    Decidable (Fits size encoded offset length) :=
  inferInstanceAs (Decidable (_ ∧ _))

/-- An offset behind the end leaves no room, so only a length can ask for less than nothing. -/
theorem Fits.asked_nonneg {size : Nat} {encoded : Bytes} {offset : Int} {length : Option Int}
    (h : Fits size encoded offset length) (hlength : ∀ k, length = some k → 0 ≤ k) :
    0 ≤ length.getD (size - offset) := by
  cases length with
  | none =>
    obtain ⟨-, hroom⟩ := h
    show (0 : Int) ≤ size - offset
    omega
  | some k => exact hlength k rfl

theorem write_eq (block encoded : Bytes) (offset : Int) (length : Option Int) :
    write block encoded offset length =
      if Fits block.length encoded offset length
      then .ok (min (Int.ofNat encoded.length) (length.getD (block.length - offset)),
        spliced block (transferred block.length encoded offset length) offset.toNat)
      else .error {} := by
  unfold write
  simp only [slice_zero, position_min, overwrite_eq]
  show (Except.bind (if Fits _ _ _ _ then _ else _) _ : Except InvalidOffset (Int × Bytes)) = _
  split
  · rfl
  · rfl

/-- Behind the end of a block there is no room at all. -/
theorem not_fits {size : Nat} {encoded : Bytes} {offset : Int} {length : Option Int}
    (h : offset < 0 ∨ size < offset) : ¬ Fits size encoded offset length := by
  unfold Fits
  omega

end GuestLint.Block
