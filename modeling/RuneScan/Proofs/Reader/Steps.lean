import RuneScan.Proofs.Reader.Invariant

/-!
The three steps every operation of a reader is made of: `next`, `backup` and the cut of a token. Each
keeps the invariant, and each says which runes the cursor has moved over.
-/

namespace RuneScan.Reader

open Utf8 (Seam runes widths)

structure Later (before after : Reader) : Prop where
  sound : after.Sound
  sizing_eq : after.intake.sizing = before.intake.sizing
  stalls_le : after.intake.source.stalls ≤ before.intake.source.stalls
  journal : ∃ events, after.intake.journal = events ++ before.intake.journal

theorem Later.refl {reader : Reader} (sound : reader.Sound) : Later reader reader :=
  ⟨sound, rfl, Nat.le_refl _, [], rfl⟩

theorem Later.trans {first second third : Reader} (earlier : Later first second)
    (later : Later second third) : Later first third := by
  rcases earlier.journal with ⟨before, first_eq⟩
  rcases later.journal with ⟨between, second_eq⟩
  refine ⟨later.sound, later.sizing_eq.trans earlier.sizing_eq,
    Nat.le_trans later.stalls_le earlier.stalls_le, between ++ before, ?_⟩
  rw [second_eq, first_eq, List.append_assoc]

/-! ### Taking a rune -/

theorem Sound.filled {reader : Reader} (sound : reader.Sound) :
    Later reader { reader with intake := reader.intake.fill } ∧
      Passes reader [] { reader with intake := reader.intake.fill } := by
  have follows := sound.intake.fill.1
  have pending : reader.intake.fill.window.pending = reader.pending := follows.pending_eq
  have coming : reader.intake.fill.coming = reader.coming := follows.coming_eq
  constructor
  · refine ⟨⟨follows.sound, ?_, ?_, ?_⟩, follows.sizing_eq, follows.stalls_le, follows.journal⟩
    · change Seam reader.intake.fill.window.pending reader.intake.fill.coming
      rw [pending, coming]
      exact sound.seam
    · change reader.history =
        (snapshots 0 reader.tokenStart (runes reader.intake.fill.window.pending)).reverse
      rw [pending]
      exact sound.history_eq
    · change reader.position =
        reader.tokenStart.past (runes reader.intake.fill.window.pending)
      rw [pending]
      exact sound.position_eq
  · refine ⟨rfl, ?_, ?_⟩
    · change reader.intake.fill.window.pending ++ reader.intake.fill.coming = _
      rw [pending, coming]
    · change runes reader.intake.fill.window.pending = _
      rw [pending, List.append_nil]

theorem Sound.pass {reader : Reader} (sound : reader.Sound) (nonempty : reader.coming ≠ [])
    (available : (Utf8.front reader.coming).width ≤ reader.intake.window.ahead.length) :
    Later reader (reader.pass (Utf8.front reader.coming)) ∧
      Passes reader [Utf8.front reader.coming] (reader.pass (Utf8.front reader.coming)) := by
  have ordered := sound.intake.ordered
  have outer := sound.seam
  have inner := Utf8.seam_front nonempty
  have alone := Utf8.runes_take_front nonempty
  have fits : (Utf8.front reader.coming).width ≤ reader.intake.window.unread := by
    rw [← ordered.length_ahead]
    exact available
  have moved := sound.intake.moved (ordered.consume fits) rfl
  have taken : reader.coming.take (Utf8.front reader.coming).width =
      reader.intake.window.ahead.take (Utf8.front reader.coming).width :=
    List.take_append_of_le_length available
  have pending : (reader.pass (Utf8.front reader.coming)).pending =
      reader.pending ++ reader.coming.take (Utf8.front reader.coming).width := by
    rw [taken]
    exact ordered.pending_consume fits
  have coming : (reader.pass (Utf8.front reader.coming)).coming =
      reader.coming.drop (Utf8.front reader.coming).width := by
    change (reader.intake.window.consume _).ahead ++ _ = List.drop _ (_ ++ _)
    rw [ordered.ahead_consume, List.drop_append_of_le_length available]
    rfl
  rw [← List.take_append_drop (Utf8.front reader.coming).width reader.coming] at outer
  have after : runes (reader.pass (Utf8.front reader.coming)).pending =
      runes reader.pending ++ [Utf8.front reader.coming] := by
    have joined : runes _ = runes _ ++ runes _ := outer.of_append
    rw [pending, joined, alone]
  constructor
  · refine ⟨⟨moved, ?_, ?_, ?_⟩, rfl, Nat.le_refl _, [], rfl⟩
    · rw [pending, coming]
      exact outer.append inner
    · have offset : reader.intake.window.offset = widths (runes reader.pending) := by
        rw [Utf8.widths_runes]
        exact ordered.length_pending.symm
      rw [after, snapshots_append, List.reverse_append, Nat.zero_add, ← offset]
      change _ :: reader.history = _
      rw [sound.history_eq, sound.position_eq]
      rfl
    · rw [after, Position.past_append]
      change reader.position.advance _ = _
      rw [sound.position_eq]
      rfl
  · refine ⟨rfl, ?_, after⟩
    rw [pending, coming, List.append_assoc, List.take_append_drop]

inductive NextEnd (before : Reader) : Option Char → Reader → Prop where
  | read (rune : Rune) (after : Reader) : Passes before [rune] after →
      runes before.coming = rune :: runes after.coming → NextEnd before (some rune.char) after
  | ended (after : Reader) : Passes before [] after → after.intake.hasEnded = true →
      after.coming = [] → NextEnd before none after
  | stalled (after : Reader) : Passes before [] after → after.intake.condition.isLive = true →
      Intake.Stalled before.intake after.intake →
      after.intake.window.ahead = [] ∨ Utf8.isTruncated after.intake.window.ahead = true →
      NextEnd before none after

theorem NextEnd.passes {before after : Reader} {answer : Option Char}
    (finish : NextEnd before answer after) : ∃ passed, Passes before passed after := by
  cases finish with
  | read rune _ passes _ => exact ⟨_, passes⟩
  | ended _ passes _ _ => exact ⟨_, passes⟩
  | stalled _ passes _ _ _ => exact ⟨_, passes⟩

private theorem Sound.pass_filled {reader : Reader} (sound : reader.Sound)
    (some : reader.intake.fill.window.ahead ≠ [])
    (same : Utf8.front reader.intake.fill.coming =
      Utf8.front reader.intake.fill.window.ahead) :
    Later reader (Reader.pass { reader with intake := reader.intake.fill }
        (Utf8.front reader.intake.fill.window.ahead)) ∧
      NextEnd reader (Utf8.front reader.intake.fill.window.ahead).char
        (Reader.pass { reader with intake := reader.intake.fill }
          (Utf8.front reader.intake.fill.window.ahead)) := by
  rcases sound.filled with ⟨later, passes⟩
  have nonempty : reader.intake.fill.coming ≠ [] := List.append_ne_nil_of_left_ne_nil some _
  have width : (Utf8.front reader.intake.fill.coming).width ≤
      reader.intake.fill.window.ahead.length := by
    rw [same]
    exact Utf8.front_width_le some
  obtain ⟨passed, moved⟩ := later.sound.pass nonempty width
  have whole := passes.trans moved
  have read := NextEnd.read _ _ whole (whole.runes_coming sound passed.sound)
  rw [← same]
  exact ⟨later.trans passed, read⟩

/-- What `next` does, by what stands at the front after the fill. -/
theorem next_decoded (reader : Reader) :
    (reader.next = (none, { reader with intake := reader.intake.fill }) ∧
      (reader.intake.fill.window.ahead = [] ∨ reader.intake.fill.hasEnded = false ∧
        Utf8.isTruncated reader.intake.fill.window.ahead = true)) ∨
    (reader.next = (some (Utf8.front reader.intake.fill.window.ahead).char,
        Reader.pass { reader with intake := reader.intake.fill }
          (Utf8.front reader.intake.fill.window.ahead)) ∧
      reader.intake.fill.window.ahead ≠ [] ∧ (reader.intake.fill.hasEnded = true ∨
        Utf8.isTruncated reader.intake.fill.window.ahead = false)) := by
  have decoding := Utf8.decode_decoding reader.intake.fill.window.ahead reader.intake.fill.hasEnded
  unfold Reader.next
  simp only [Window.lookahead_eq_take, Utf8.decode_take_maxWidth]
  generalize Utf8.decode reader.intake.fill.window.ahead reader.intake.fill.hasEnded = decoded
    at decoding ⊢
  cases decoding with
  | empty empty => exact .inl ⟨rfl, .inl empty⟩
  | incomplete unfinished truncated => exact .inl ⟨rfl, .inr ⟨unfinished, truncated⟩⟩
  | rune nonempty settled => exact .inr ⟨rfl, nonempty, settled⟩

theorem Sound.next {reader : Reader} (sound : reader.Sound) :
    Later reader reader.next.2 ∧ NextEnd reader reader.next.1 reader.next.2 := by
  rcases sound.filled with ⟨later, passes⟩
  have finish := sound.intake.fill.2
  rcases next_decoded reader with ⟨same, empty | ⟨unfinished, truncated⟩⟩ |
    ⟨same, nonempty, settled⟩
  · rw [same]
    refine ⟨later, ?_⟩
    cases finish with
    | ended finished =>
        exact .ended _ passes finished ((Intake.coming_of_ended finished).trans empty)
    | decodable live nonempty settled => contradiction
    | stalled live stalled => exact .stalled _ passes live stalled (.inl empty)
  · rw [same]
    refine ⟨later, ?_⟩
    cases finish with
    | ended finished =>
        rw [unfinished] at finished
        cases finished
    | decodable live nonempty settled =>
        rw [truncated] at settled
        cases settled
    | stalled live stalled => exact .stalled _ passes live stalled (.inr truncated)
  · rw [same]
    exact sound.pass_filled nonempty (later.sound.intake.front_coming nonempty settled)

/-! ### Going back -/

private def returned (reader : Reader) (keep : Nat) : Reader :=
  { reader with
    intake :=
      { reader.intake with
        window := reader.intake.window.rewind (widths ((runes reader.pending).take keep)) }
    history := (snapshots 0 reader.tokenStart ((runes reader.pending).take keep)).reverse
    position := reader.tokenStart.past ((runes reader.pending).take keep) }

private theorem Sound.returned {reader : Reader} (sound : reader.Sound) {keep : Nat}
    (within : keep ≤ (runes reader.pending).length) :
    (reader.returned keep).Sound ∧
      Passes (reader.returned keep) ((runes reader.pending).drop keep) reader := by
  have ordered := sound.intake.ordered
  have reach : widths ((runes reader.pending).take keep) ≤ reader.intake.window.offset := by
    rw [← ordered.length_pending]
    exact Nat.le_trans (Utf8.widths_take_le _ _) (Nat.le_of_eq (Utf8.widths_runes _))
  have pending : (reader.returned keep).pending =
      reader.pending.take (widths ((runes reader.pending).take keep)) :=
    ordered.pending_rewind reach
  have coming : (reader.returned keep).coming =
      reader.pending.drop (widths ((runes reader.pending).take keep)) ++ reader.coming := by
    change (reader.intake.window.rewind _).ahead ++ _ = _ ++ (_ ++ _)
    rw [ordered.ahead_rewind reach, List.append_assoc]
    rfl
  have kept : runes (reader.returned keep).pending = (runes reader.pending).take keep := by
    rw [pending]
    exact (Utf8.runes_split reader.pending keep).1
  constructor
  · refine ⟨sound.intake.moved (ordered.rewind reach) rfl, ?_, ?_, ?_⟩
    · -- The seam before the runes given back, and the one after them, make one at their start.
      have later := sound.seam.retreat within
      have whole := sound.seam
      unfold Seam at later whole ⊢
      rw [kept, coming, later, (Utf8.runes_split reader.pending keep).2, pending,
        ← List.append_assoc, List.take_append_drop, whole, ← List.append_assoc,
        List.take_append_drop]
    · rw [kept]
      rfl
    · rw [kept]
      rfl
  · refine ⟨rfl, ?_, ?_⟩
    · rw [pending, coming, ← List.append_assoc, List.take_append_drop]
    · rw [kept, List.take_append_drop]

theorem Sound.backup {reader : Reader} (sound : reader.Sound) (count : Nat) :
    Later reader (reader.backup count) ∧
      Passes (reader.backup count)
        ((runes reader.pending).drop ((runes reader.pending).length - count)) reader := by
  have rewound : reader.history.rewind count =
      ((snapshots 0 reader.tokenStart (runes reader.pending))[
          (runes reader.pending).length - count]?,
        ((snapshots 0 reader.tokenStart (runes reader.pending)).take
          ((runes reader.pending).length - count)).reverse) := by
    rw [sound.history_eq, rewind_reverse, length_snapshots]
  have bounded := Nat.sub_le (runes reader.pending).length count
  unfold Reader.backup
  generalize (runes reader.pending).length - count = keep at rewound bounded ⊢
  obtain ⟨kept, passes⟩ := sound.returned bounded
  rcases Nat.lt_or_eq_of_le bounded with within | all
  · rw [rewound, getElem?_snapshots _ _ within, take_snapshots, Nat.zero_add]
    exact ⟨⟨kept, rfl, Nat.le_refl _, [], rfl⟩, passes⟩
  · have none : (snapshots 0 reader.tokenStart (runes reader.pending))[keep]? = none := by
      rw [List.getElem?_eq_none_iff, length_snapshots]
      exact Nat.le_of_eq all.symm
    rw [rewound, none]
    simp only
    rw [List.drop_of_length_le (Nat.le_of_eq all.symm)]
    exact ⟨.refl sound, .refl reader⟩

theorem Sound.runes_backup {reader : Reader} (sound : reader.Sound) (count : Nat) :
    runes (reader.backup count).pending =
      (runes reader.pending).take ((runes reader.pending).length - count) := by
  have whole := (sound.backup count).2.runes_eq
  have parts := List.take_append_drop ((runes reader.pending).length - count)
    (runes reader.pending)
  exact (List.append_cancel_right (parts.trans whole)).symm

theorem backup_source (reader : Reader) (count : Nat) :
    (reader.backup count).intake.source = reader.intake.source := by
  unfold backup
  split <;> rfl

theorem backup_kept (reader : Reader) (count : Nat) :
    (reader.backup count).intake.window.kept = reader.intake.window.kept := by
  unfold backup
  split <;> rfl

theorem backup_condition (reader : Reader) (count : Nat) :
    (reader.backup count).intake.condition = reader.intake.condition := by
  unfold backup
  split <;> rfl

theorem Passes.backup_append {before after : Reader} {passed undone : List Rune}
    (passes : Passes before (passed ++ undone) after) (later : after.Sound) :
    Passes before passed (after.backup undone.length) := by
  have back := (later.backup undone.length).2
  have all : runes after.pending = (runes before.pending ++ passed) ++ undone := by
    rw [passes.runes_eq, List.append_assoc]
  have kept : (runes after.pending).length - undone.length =
      (runes before.pending ++ passed).length := by
    rw [all, List.length_append, Nat.add_sub_cancel]
  rw [kept, all, List.drop_left] at back
  have same := back.runes_eq
  rw [all] at same
  exact ⟨back.tokenStart_eq.symm.trans passes.tokenStart_eq,
    back.whole_eq.symm.trans passes.whole_eq, (List.append_cancel_right same).symm⟩

theorem Passes.backup {before after : Reader} {passed : List Rune}
    (passes : Passes before passed after) (later : after.Sound) :
    Passes before [] (after.backup passed.length) :=
  @Passes.backup_append before after [] passed passes later

/-! ### Cutting a token -/

theorem Sound.ignore {reader : Reader} (sound : reader.Sound) : Later reader reader.ignore := by
  have ordered := sound.intake.ordered
  have pending : reader.ignore.pending = [] := reader.intake.window.pending_markStart
  refine ⟨⟨sound.intake.moved ordered.markStart rfl, ?_, ?_, ?_⟩, rfl, Nat.le_refl _, [], rfl⟩
  · rw [pending]
    exact Utf8.seam_nil_left _
  · rw [pending, Utf8.runes_nil]
    rfl
  · rw [pending, Utf8.runes_nil]
    rfl

theorem pending_ignore (reader : Reader) : reader.ignore.pending = [] :=
  reader.intake.window.pending_markStart

theorem coming_ignore (reader : Reader) : reader.ignore.coming = reader.coming := rfl

end RuneScan.Reader
