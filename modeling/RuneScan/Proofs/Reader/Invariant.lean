import RuneScan.Reader.Basic
import RuneScan.Proofs.History
import RuneScan.Proofs.Intake.Filling

/-!
The invariant of a reader over an honest source, and what its steps do to the runes. The pending
bytes end with a rune of the stream, and their runes account for the history and the position. So a
reader is fixed, as far as its runes go, by the pending bytes, the bytes to come and the start of the
token: `next` moves a rune from the bytes to come to the pending ones or leaves both as they are,
`backup` moves runes the other way, and a cut makes the pending bytes empty.
-/

namespace RuneScan

namespace Window

theorem Ordered.pending_consume {window : Window} (ordered : window.Ordered) {width : Nat}
    (available : width ≤ window.unread) :
    (window.consume width).pending = window.pending ++ window.ahead.take width := by
  have length := ordered.length_pending
  have offset : (window.consume width).offset = window.offset + width := by
    have start_le := ordered.start_le
    simp only [Window.consume, Window.offset]
    omega
  rw [(ordered.consume available).pending_eq_take, offset]
  change window.kept.take _ = _
  rw [← ordered.pending_append_ahead, ← length, List.take_length_add_append]

theorem Ordered.pending_rewind {window : Window} (ordered : window.Ordered) {offset : Nat}
    (within : offset ≤ window.offset) :
    (window.rewind offset).pending = window.pending.take offset := by
  have back : (window.rewind offset).offset = offset := Nat.add_sub_cancel_left _ _
  rw [(ordered.rewind within).pending_eq_take, back]
  change window.kept.take _ = _
  rw [← ordered.pending_append_ahead, List.take_append_of_le_length]
  rw [ordered.length_pending]
  exact within

theorem Ordered.ahead_rewind {window : Window} (ordered : window.Ordered) {offset : Nat}
    (within : offset ≤ window.offset) :
    (window.rewind offset).ahead = window.pending.drop offset ++ window.ahead := by
  have back : (window.rewind offset).offset = offset := Nat.add_sub_cancel_left _ _
  rw [(ordered.rewind within).ahead_eq_drop, back]
  change window.kept.drop _ = _
  rw [← ordered.pending_append_ahead, List.drop_append_of_le_length]
  rw [ordered.length_pending]
  exact within

theorem pending_markStart (window : Window) : window.markStart.pending = [] := by
  simp [Window.markStart, pending]

theorem Ordered.holdsToken_eq {window : Window} (ordered : window.Ordered) :
    window.holdsToken = decide (window.pending ≠ []) := by
  have length := ordered.length_pending
  have start_le := ordered.start_le
  have current_le := ordered.current_le
  have holds : window.start < min window.current window.head ↔ window.pending ≠ [] := by
    rw [← List.length_pos_iff, length, offset]
    omega
  rw [holdsToken, decide_eq_decide]
  exact holds

end Window

open Utf8 (Seam runes widths)

theorem Intake.Sound.moved {intake : Intake} (sound : intake.Sound) {window : Window}
    (ordered : window.Ordered) (cells : window.cells = intake.window.cells) :
    Intake.Sound { intake with window := window } :=
  { sound.toLaid.moved ordered cells with honest := sound.honest, known := sound.known }

namespace Reader

def coming (reader : Reader) : List UInt8 :=
  reader.intake.coming

structure Sound (reader : Reader) : Prop where
  intake : reader.intake.Sound
  seam : Seam reader.pending reader.coming
  history_eq : reader.history =
    (snapshots 0 reader.tokenStart (runes reader.pending)).reverse
  position_eq : reader.position = reader.tokenStart.past (runes reader.pending)

theorem Sound.history_length {reader : Reader} (sound : reader.Sound) :
    reader.history.length = (runes reader.pending).length := by
  rw [sound.history_eq, List.length_reverse, length_snapshots]

theorem Sound.kept_eq {reader : Reader} (sound : reader.Sound) :
    reader.intake.window.kept = reader.pending ++ reader.intake.window.ahead :=
  sound.intake.ordered.pending_append_ahead.symm

theorem sound_start {source : Source} (honest : source.Honest) (sizing : Sizing) :
    (start source sizing).Sound := by
  have pending : (start source sizing).pending = [] := rfl
  refine ⟨Intake.sound_start honest sizing, ?_, ?_, ?_⟩
  · rw [pending]
    exact Utf8.seam_nil_left _
  · rw [pending, Utf8.runes_nil]
    rfl
  · rw [pending, Utf8.runes_nil]
    rfl

theorem error?_of_live {reader : Reader} (live : reader.intake.condition.isLive = true) :
    reader.error? = none :=
  Intake.error?_of_live live

structure Passes (before : Reader) (passed : List Rune) (after : Reader) : Prop where
  tokenStart_eq : after.tokenStart = before.tokenStart
  whole_eq : after.pending ++ after.coming = before.pending ++ before.coming
  runes_eq : runes after.pending = runes before.pending ++ passed

theorem Passes.refl (reader : Reader) : Passes reader [] reader :=
  ⟨rfl, rfl, (List.append_nil _).symm⟩

theorem Passes.trans {first second third : Reader} {passed more : List Rune}
    (earlier : Passes first passed second) (later : Passes second more third) :
    Passes first (passed ++ more) third := by
  refine ⟨later.tokenStart_eq.trans earlier.tokenStart_eq,
    later.whole_eq.trans earlier.whole_eq, ?_⟩
  rw [later.runes_eq, earlier.runes_eq, List.append_assoc]

theorem Passes.length_pending {before after : Reader} {passed : List Rune}
    (passes : Passes before passed after) :
    after.pending.length = before.pending.length + widths passed := by
  rw [← Utf8.widths_runes, passes.runes_eq, Utf8.widths_append, Utf8.widths_runes]

theorem Passes.pending_eq {before after : Reader} {passed : List Rune}
    (passes : Passes before passed after) :
    after.pending = before.pending ++ before.coming.take (widths passed) := by
  have cut := congrArg (List.take after.pending.length) passes.whole_eq
  rw [List.take_left, passes.length_pending, List.take_length_add_append] at cut
  exact cut

theorem Passes.coming_eq {before after : Reader} {passed : List Rune}
    (passes : Passes before passed after) :
    after.coming = before.coming.drop (widths passed) := by
  have cut := congrArg (List.drop after.pending.length) passes.whole_eq
  rw [List.drop_left, passes.length_pending, List.drop_length_add_append] at cut
  exact cut

theorem Passes.runes_coming {before after : Reader} {passed : List Rune}
    (passes : Passes before passed after) (prior : before.Sound) (later : after.Sound) :
    runes before.coming = passed ++ runes after.coming := by
  have same : runes (after.pending ++ after.coming) = runes (before.pending ++ before.coming) :=
    congrArg runes passes.whole_eq
  have first := prior.seam
  have second := later.seam
  unfold Seam at first second
  rw [first, second, passes.runes_eq, List.append_assoc] at same
  exact (List.append_cancel_left same).symm

structure SameCursor (first second : Reader) : Prop where
  position_eq : first.position = second.position
  tokenStart_eq : first.tokenStart = second.tokenStart
  pending_eq : first.pending = second.pending
  history_eq : first.history = second.history

/-- Two readers that have passed the same runes of the same token are alike but for what the window
holds. -/
theorem Passes.sameCursor {before first second : Reader} {passed : List Rune}
    (left : Passes before passed first) (right : Passes before passed second)
    (left_sound : first.Sound) (right_sound : second.Sound) : SameCursor first second := by
  have tokenStart : first.tokenStart = second.tokenStart :=
    left.tokenStart_eq.trans right.tokenStart_eq.symm
  have pending : first.pending = second.pending := left.pending_eq.trans right.pending_eq.symm
  constructor
  · rw [left_sound.position_eq, right_sound.position_eq, tokenStart, pending]
  · exact tokenStart
  · exact pending
  · rw [left_sound.history_eq, right_sound.history_eq, tokenStart, pending]

theorem Passes.nil_eq {before after : Reader} (passes : Passes before [] after)
    (prior : before.Sound) (later : after.Sound) :
    after.pending = before.pending ∧ after.coming = before.coming ∧
      after.history = before.history ∧ after.position = before.position := by
  have same := passes.sameCursor (.refl before) later prior
  have coming := passes.coming_eq
  rw [Utf8.widths_nil, List.drop_zero] at coming
  exact ⟨same.pending_eq, coming, same.history_eq, same.position_eq⟩

end Reader
end RuneScan
