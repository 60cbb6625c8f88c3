import RuneScan.History
import RuneScan.Proofs.Utf8.Seam

/-!
The trail of a cursor. From where a token begins, the runes passed since then fix the position of the
cursor and every snapshot of it; going back to a snapshot is passing fewer runes.
-/

namespace RuneScan

open Utf8 (widths)

def Position.past (position : Position) (runes : List Rune) : Position :=
  runes.foldl (fun position rune => position.advance rune.char) position

@[simp] theorem Position.past_nil (position : Position) : position.past [] = position := rfl

@[simp] theorem Position.past_cons (position : Position) (rune : Rune) (runes : List Rune) :
    position.past (rune :: runes) = (position.advance rune.char).past runes := rfl

theorem Position.past_append (position : Position) (first second : List Rune) :
    position.past (first ++ second) = (position.past first).past second :=
  List.foldl_append

/-- The snapshots left by passing some runes, the earliest first. -/
def snapshots (offset : Nat) (position : Position) : List Rune → List Snapshot
  | [] => []
  | rune :: rest =>
      ⟨offset, position⟩ :: snapshots (offset + rune.width) (position.advance rune.char) rest

@[simp] theorem length_snapshots (offset : Nat) (position : Position) (runes : List Rune) :
    (snapshots offset position runes).length = runes.length := by
  induction runes generalizing offset position with
  | nil => rfl
  | cons rune rest ih => rw [snapshots, List.length_cons, List.length_cons, ih]

theorem snapshots_append (offset : Nat) (position : Position) (first second : List Rune) :
    snapshots offset position (first ++ second) =
      snapshots offset position first ++
        snapshots (offset + widths first) (position.past first) second := by
  induction first generalizing offset position with
  | nil => rfl
  | cons rune rest ih =>
      rw [List.cons_append, snapshots, snapshots, ih, Utf8.widths_cons, Position.past_cons,
        Nat.add_assoc, List.cons_append]

theorem take_snapshots (offset : Nat) (position : Position) (runes : List Rune) (count : Nat) :
    (snapshots offset position runes).take count =
      snapshots offset position (runes.take count) := by
  induction runes generalizing offset position count with
  | nil => simp [snapshots]
  | cons rune rest ih =>
      cases count with
      | zero => rfl
      | succ count => rw [snapshots, List.take_succ_cons, List.take_succ_cons, snapshots, ih]

theorem getElem?_snapshots (offset : Nat) (position : Position) {runes : List Rune} {index : Nat}
    (within : index < runes.length) :
    (snapshots offset position runes)[index]? =
      some ⟨offset + widths (runes.take index), position.past (runes.take index)⟩ := by
  induction runes generalizing offset position index with
  | nil => exact absurd within (Nat.not_lt_zero _)
  | cons rune rest ih =>
      cases index with
      | zero => rfl
      | succ index =>
          rw [snapshots, List.getElem?_cons_succ, ih _ _ (Nat.lt_of_succ_lt_succ within),
            List.take_succ_cons, Utf8.widths_cons, Position.past_cons, Nat.add_assoc]

theorem rewind_reverse (earliestFirst : List Snapshot) (count : Nat) :
    History.rewind earliestFirst.reverse count =
      (earliestFirst[earliestFirst.length - count]?,
        (earliestFirst.take (earliestFirst.length - count)).reverse) := by
  unfold History.rewind
  rw [List.take_reverse, List.getLast?_reverse, List.head?_drop, List.drop_reverse]

/-- A rewind that finds no snapshot drops none. -/
theorem History.rewind_none {history earlier : History} {count : Nat}
    (missed : history.rewind count = (none, earlier)) : earlier = history := by
  obtain ⟨last, left⟩ := Prod.mk.inj missed
  have nothing : history.take count = [] := List.getLast?_eq_none_iff.mp last
  calc
    earlier = history.drop count := left.symm
    _ = history.take count ++ history.drop count := by rw [nothing, List.nil_append]
    _ = history := List.take_append_drop ..

theorem History.rewind_some {history earlier : History} {count : Nat} {snapshot : Snapshot}
    (found : history.rewind count = (some snapshot, earlier)) :
    ∃ undone, history = undone ++ snapshot :: earlier := by
  obtain ⟨last, left⟩ := Prod.mk.inj found
  obtain ⟨undone, same⟩ := List.getLast?_eq_some_iff.mp last
  refine ⟨undone, ?_⟩
  calc
    history = history.take count ++ history.drop count := (List.take_append_drop ..).symm
    _ = (undone ++ [snapshot]) ++ earlier := by rw [same, left]
    _ = undone ++ snapshot :: earlier := by rw [List.append_assoc, List.singleton_append]

/-- Two rewinds in a row lead to the snapshot of one that is as long as both. -/
theorem History.rewind_rewind (history : History) (first second : Nat) :
    history.rewind (first + second) =
      (((history.rewind first).2.rewind second).1.or (history.rewind first).1,
        ((history.rewind first).2.rewind second).2) := by
  simp only [History.rewind]
  rw [List.take_add, List.getLast?_append, List.drop_drop]

end RuneScan
