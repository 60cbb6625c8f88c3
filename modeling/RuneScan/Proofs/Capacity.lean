import Mathlib.Algebra.GroupWithZero.Nat
import RuneScan.Proofs.Intake.Rounds
import RuneScan.Proofs.Reader.Layout
import RuneScan.Proofs.Reader.Operations

/-!
The number of cells. Nothing is allocated before the first read; from there on the cells are those of
the first allocation, doubled some times. A round doubles them only where the bytes in use leave no
room for a chunk, and these are the pending token and at most three unread bytes. So the longest token
of a run bounds the cells, however long the input is.
-/

namespace RuneScan

namespace Intake

/-- There are no cells before the first read, and the first ones doubled some times after it; the
doubled ones are few for a pending token that was never longer than `longest`. -/
structure CellsBounded (source : Source) (sizing : Sizing) (longest : Nat) (intake : Intake) :
    Prop where
  sizing_eq : intake.sizing = sizing
  cells : (intake.source.reads = source.reads ∧ intake.window.cells.size = 0) ∨
    (source.reads < intake.source.reads ∧ ∃ doublings,
      intake.window.cells.size = sizing.capacity * 2 ^ doublings ∧
      (1 ≤ doublings → intake.window.cells.size < 2 * (longest + 3 + sizing.chunk)))

variable {source : Source} {sizing : Sizing} {longest : Nat} {intake : Intake}

theorem cellsBounded_start (source : Source) (sizing : Sizing) (longest : Nat) :
    CellsBounded source sizing.clamp longest (start source sizing) :=
  ⟨rfl, .inl ⟨rfl, rfl⟩⟩

theorem CellsBounded.moved (bounded : CellsBounded source sizing longest intake) {window : Window}
    (cells : window.cells = intake.window.cells) :
    CellsBounded source sizing longest { intake with window := window } :=
  ⟨bounded.sizing_eq, by simpa only [cells] using bounded.cells⟩

/-- A round starts with cells that are bounded, also where it allocates them. -/
theorem CellsBounded.cellCount (bounded : CellsBounded source sizing longest intake)
    (laid : intake.Laid) : source.reads ≤ intake.source.reads ∧ ∃ doublings,
      intake.cellCount = sizing.capacity * 2 ^ doublings ∧
      (1 ≤ doublings → intake.cellCount < 2 * (longest + 3 + sizing.chunk)) := by
  rcases bounded.cells with ⟨unread, empty⟩ | ⟨read, doublings, size, few⟩
  · refine ⟨Nat.le_of_eq unread.symm, 0, ?_, fun some => absurd some (by decide)⟩
    rw [cellCount_of_empty empty, bounded.sizing_eq, Nat.pow_zero, Nat.mul_one]
  · have capacity : 0 < sizing.capacity := by
      rw [← bounded.sizing_eq]
      exact Nat.lt_of_lt_of_le laid.chunk_pos laid.chunk_le
    have cells : 0 < intake.window.cells.size := by
      rw [size]
      exact Nat.mul_pos capacity (Nat.two_pow_pos doublings)
    rw [cellCount_of_pos cells]
    exact ⟨Nat.le_of_lt read, doublings, size, few⟩

theorem CellsBounded.round (bounded : CellsBounded source sizing longest intake)
    (laid : intake.Laid) (wants : intake.wants = true) (short : intake.window.offset ≤ longest) :
    CellsBounded source sizing longest intake.round.2 := by
  obtain ⟨reads, doublings, size, few⟩ := bounded.cellCount laid
  have made := laid.round.reads_eq
  have chunk := congrArg Sizing.chunk bounded.sizing_eq
  refine ⟨laid.round.sizing_eq.trans bounded.sizing_eq, .inr ⟨by omega, ?_⟩⟩
  cases laid.round_room with
  | inPlace cells _ _ =>
      rw [cells]
      exact ⟨doublings, size, few⟩
  | slid _ cells _ _ =>
      rw [cells]
      exact ⟨doublings, size, few⟩
  | grown tight cells _ _ =>
      have unread := (wants_iff.mp wants).2
      rw [laid.ordered.retained_eq] at tight
      refine ⟨doublings + 1, ?_, fun _ => ?_⟩
      · rw [cells, size, Nat.pow_succ, Nat.mul_assoc]
      · rw [cells]
        simp only [Utf8.maxWidth] at unread
        omega

theorem CellsBounded.fill (bounded : CellsBounded source sizing longest intake)
    (laid : intake.Laid) (short : intake.window.offset ≤ longest) :
    CellsBounded source sizing longest intake.fill := by
  have kept : intake.fill.Laid ∧ intake.fill.window.offset ≤ longest ∧
      CellsBounded source sizing longest intake.fill := by
    apply fill_keeps (motive := fun intake => intake.Laid ∧ intake.window.offset ≤ longest ∧
      CellsBounded source sizing longest intake) ⟨laid, short, bounded⟩
    intro intake wants ⟨laid, short, bounded⟩
    refine ⟨laid.round.laid, ?_, bounded.round laid wants short⟩
    rw [laid.round.offset_eq laid]
    exact short
  exact kept.2.2

end Intake

namespace Reader

open Intake (CellsBounded)

variable {source : Source} {sizing : Sizing} {longest : Nat} {reader : Reader}

/-- The greatest length that the pending token has between the moves. -/
def peak (reader : Reader) : List Move → Nat
  | [] => reader.pending.length
  | move :: others => max reader.pending.length ((reader.move move).peak others)

theorem Laid.cellsBounded_move (laid : reader.Laid)
    (bounded : CellsBounded source sizing longest reader.intake)
    (short : reader.pending.length ≤ longest) (move : Move) :
    CellsBounded source sizing longest (reader.move move).intake := by
  have offset : reader.intake.window.offset ≤ longest := by
    rw [← laid.intake.ordered.length_pending]
    exact short
  have supplied : CellsBounded source sizing longest (reader.supplied move) := by
    cases move with
    | next => exact bounded.fill laid.intake offset
    | backup count => exact bounded
    | cut => exact bounded
  obtain ⟨cells, same⟩ := reader.move_intake move
  rw [same]
  exact supplied.moved cells

theorem Laid.cellsBounded_moveAll (laid : reader.Laid)
    (bounded : CellsBounded source sizing longest reader.intake) {moves : List Move}
    (short : reader.peak moves ≤ longest) :
    CellsBounded source sizing longest (reader.moveAll moves).intake := by
  induction moves generalizing reader with
  | nil => exact bounded
  | cons move others ih =>
      obtain ⟨now, later⟩ := Nat.max_le.mp short
      exact ih (laid.move move) (laid.cellsBounded_move bounded now move) later

end Reader

/-- After any moves the cells are bounded by the longest pending token there has been so far, and
every run of commands is the run of the moves it makes. -/
theorem cells_bounded_by_longest_token (source : Source) (sizing : Sizing) :
    let fresh := Reader.start source sizing
    (∀ moves, Intake.CellsBounded source sizing.clamp (fresh.peak moves)
      (fresh.moveAll moves).intake) ∧
    ∀ commands, fresh.moveAll (fresh.movesByAll commands) = (fresh.performAll commands).2 := by
  intro fresh
  constructor
  · intro moves
    have bounded := Intake.cellsBounded_start source sizing (fresh.peak moves)
    exact (Reader.laid_start source sizing).cellsBounded_moveAll bounded (Nat.le_refl _)
  · intro commands
    exact (Reader.performAll_leads fresh commands).moveAll_eq

end RuneScan
