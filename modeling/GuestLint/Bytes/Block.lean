import GuestLint.Bytes.Utf8
/-!
# Blocks of bytes

Operations on blocks of a fixed size: cutting out a part, joining blocks, and writing bytes into
one. Positions are integers as a guest gives them; a negative position counts from the end.

* `join`: blocks one after another, cut or filled with zeros to a wanted size.
* `overwrite`: replaces bytes from an offset on, or refuses when they do not fit.
-/
namespace GuestLint.Block

/-- A position in a sequence of some length; negative positions count from its end, and what lies
outside is moved to the nearest end. -/
def position (length : Nat) (p : Int) : Nat :=
  if p < 0 then (Int.ofNat length + p).toNat else min p.toNat length

/-- The elements from one position up to another. -/
def slice {α : Type} (items : List α) (start stop : Int) : List α :=
  let first := position items.length start
  (items.drop first).take (position items.length stop - first)

/-- Fills exactly `room` bytes from blocks, with zeros where they end early. -/
def fillFrom (room : Nat) : List Bytes → Bytes
  | [] => List.replicate room 0
  | block :: rest =>
    if room = 0 then [] else block.take room ++ fillFrom (room - block.length) rest

/-- Blocks one after another, in a block of the given size or of just their size. -/
def join (blocks : List Bytes) (total : Option Nat) : Bytes :=
  fillFrom (total.getD blocks.flatten.length) blocks

/-- The bytes do not fit at their offset. -/
structure InvalidOffset where
  deriving Repr, DecidableEq

def InvalidOffset.message (_ : InvalidOffset) : String := "invalid offset"

/-- Replaces the bytes from an offset on. -/
def overwrite (block bytes : Bytes) (offset : Int) : Except InvalidOffset Bytes :=
  if offset < 0 ∨ Int.ofNat block.length < offset + Int.ofNat bytes.length then .error {}
  else
    let start := offset.toNat
    .ok (block.take start ++ bytes ++ block.drop (start + bytes.length))

/-- Writes encoded text into a block at an offset: as many bytes as the length asks for, or as fit.
The answer is that number with the block that results. -/
def write (block encoded : Bytes) (offset : Int) (length : Option Int) :
    Except InvalidOffset (Int × Bytes) := do
  let count := min (Int.ofNat encoded.length) (length.getD (Int.ofNat block.length - offset))
  let block ← overwrite block (slice encoded 0 count) offset
  pure (count, block)

end GuestLint.Block
