import RuneScan.Position

/-!
The undo stack. Each consumed rune leaves a snapshot of the cursor as it stood before that rune.
-/

namespace RuneScan

/-- The byte offset is counted from the start of the pending token, so it stays right when the
token's bytes are moved. -/
structure Snapshot where
  offset : Nat
  position : Position
deriving DecidableEq, Repr

/-- Snapshots, the latest first. -/
abbrev History := List Snapshot

/-- Drops up to `count` snapshots and gives the oldest of those dropped, which is where the cursor
has to return to. -/
def History.rewind (history : History) (count : Nat) : Option Snapshot × History :=
  ((history.take count).getLast?, history.drop count)

end RuneScan
