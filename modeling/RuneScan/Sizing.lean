import RuneScan.Utf8.Decode

/-!
Sizes of the reads and of the first allocation.
-/

namespace RuneScan

structure Sizing where
  /-- The number of bytes asked for in one read. -/
  chunk : Nat
  /-- The number of cells allocated at the first read. -/
  capacity : Nat
deriving DecidableEq, Repr

namespace Sizing

def defaultChunk : Nat := 4096

def defaultCapacity : Nat := defaultChunk * 2

def standard : Sizing := ⟨defaultChunk, defaultCapacity⟩

/-- Raises sizes that are too small: a chunk holds at least one scalar value, and the first
allocation at least one chunk. -/
def clamp (sizing : Sizing) : Sizing :=
  let chunk := max sizing.chunk Utf8.maxWidth
  ⟨chunk, max sizing.capacity chunk⟩

theorem clamp_chunk_pos (sizing : Sizing) : 0 < sizing.clamp.chunk :=
  Nat.lt_of_lt_of_le (by decide : 0 < Utf8.maxWidth) (Nat.le_max_right _ _)

theorem clamp_chunk_le_capacity (sizing : Sizing) :
    sizing.clamp.chunk ≤ sizing.clamp.capacity :=
  Nat.le_max_right _ _

end Sizing
end RuneScan
