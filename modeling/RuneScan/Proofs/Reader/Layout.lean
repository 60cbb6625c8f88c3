import RuneScan.Proofs.Intake.Rounds
import RuneScan.Proofs.Reader.Moves

/-!
The layout of a reader, whatever its source does. The snapshots stand within the pending token, each
at or before those made after it, so going back never moves the cursor forward or past the start of
the token. Every run of moves keeps this. To the intake a run is the rounds that are due, and moves of
the marks in between; the bytes in use grow by what is handed over and shrink by what is cut off.
-/

namespace RuneScan.Reader

structure Laid (reader : Reader) : Prop where
  intake : reader.intake.Laid
  descending : (reader.intake.window.offset :: reader.history.map Snapshot.offset).Pairwise (· ≥ ·)

theorem laid_start (source : Source) (sizing : Sizing) : (start source sizing).Laid :=
  ⟨Intake.laid_start source sizing, List.pairwise_singleton _ _⟩

theorem Laid.fill {reader : Reader} (laid : reader.Laid) :
    Laid { reader with intake := reader.intake.fill } := by
  obtain ⟨count, fed⟩ := laid.intake.fill
  refine ⟨fed.laid, ?_⟩
  rw [fed.offset_eq laid.intake]
  exact laid.descending

theorem Laid.pass {reader : Reader} (laid : reader.Laid) {rune : Rune}
    (available : rune.width ≤ reader.intake.window.unread) : (reader.pass rune).Laid := by
  refine ⟨laid.intake.moved (laid.intake.ordered.consume available) rfl, ?_⟩
  have later : reader.intake.window.offset ≤ (reader.pass rune).intake.window.offset := by
    simp only [Reader.pass, Window.consume, Window.offset]
    omega
  have descending := laid.descending
  refine List.pairwise_cons.mpr ⟨?_, descending⟩
  intro offset member
  rcases List.mem_cons.mp member with rfl | earlier
  · exact later
  · exact Nat.le_trans (List.rel_of_pairwise_cons descending earlier) later

theorem Laid.next {reader : Reader} (laid : reader.Laid) : reader.next.2.Laid := by
  rcases next_cases reader with same | ⟨rune, _, available, same⟩
  · rw [same]
    exact laid.fill
  · rw [same]
    exact laid.fill.pass available

/-- The snapshot that is gone back to stands between the start of the token and the cursor. -/
theorem Laid.rewind_le {reader : Reader} (laid : reader.Laid) {count : Nat} {snapshot : Snapshot}
    {earlier : History} (found : reader.history.rewind count = (some snapshot, earlier)) :
    snapshot.offset ≤ reader.intake.window.offset := by
  obtain ⟨undone, same⟩ := History.rewind_some found
  apply List.rel_of_pairwise_cons laid.descending
  rw [same]
  exact List.mem_map_of_mem (List.mem_append_right _ List.mem_cons_self)

theorem Laid.backup {reader : Reader} (laid : reader.Laid) (count : Nat) :
    (reader.backup count).Laid := by
  unfold Reader.backup
  split
  · exact laid
  · rename_i snapshot earlier found
    obtain ⟨undone, same⟩ := History.rewind_some found
    have within := laid.rewind_le found
    refine ⟨laid.intake.moved (laid.intake.ordered.rewind within) rfl, ?_⟩
    have back : (reader.intake.window.rewind snapshot.offset).offset = snapshot.offset :=
      Nat.add_sub_cancel_left _ _
    have descending := (List.pairwise_cons.mp laid.descending).2
    rw [same, List.map_append] at descending
    rw [back]
    exact (List.pairwise_append.mp descending).2.1

theorem Laid.ignore {reader : Reader} (laid : reader.Laid) : reader.ignore.Laid :=
  ⟨laid.intake.moved laid.intake.ordered.markStart rfl, List.pairwise_singleton _ _⟩

theorem Reaches.laid {before after : Reader} {texts : List (List UInt8)}
    (reaches : Reaches before texts after) (laid : before.Laid) : after.Laid := by
  apply reaches.induction (motive := fun reader _ => reader.Laid)
  · exact laid
  · intro reader _ held
    exact held.next
  · intro reader _ count held
    exact held.backup count
  · intro reader _ held
    exact held.ignore

theorem Laid.move {reader : Reader} (laid : reader.Laid) (move : Move) : (reader.move move).Laid :=
  (moveAll_reaches reader [move]).laid laid

/-! ### What becomes of the intake -/

/-- The intake that a move finds when it comes to move the marks. -/
def supplied (reader : Reader) : Move → Intake
  | .next => reader.intake.fill
  | .backup _ => reader.intake
  | .cut => reader.intake

theorem move_intake (reader : Reader) (move : Move) :
    (reader.move move).intake.window.cells = (reader.supplied move).window.cells ∧
      (reader.move move).intake =
        { reader.supplied move with window := (reader.move move).intake.window } := by
  cases move with
  | next =>
      change reader.next.2.intake.window.cells = reader.intake.fill.window.cells ∧
        reader.next.2.intake = { reader.intake.fill with window := reader.next.2.intake.window }
      rcases next_cases reader with same | ⟨rune, _, _, same⟩
      · rw [same]
        exact ⟨rfl, rfl⟩
      · rw [same]
        exact ⟨rfl, rfl⟩
  | backup count =>
      change (reader.backup count).intake.window.cells = reader.intake.window.cells ∧
        (reader.backup count).intake =
          { reader.intake with window := (reader.backup count).intake.window }
      unfold Reader.backup
      split
      · exact ⟨rfl, rfl⟩
      · exact ⟨rfl, rfl⟩
  | cut => exact ⟨rfl, rfl⟩

/-- What every round that is due and every move of the marks keep, a move of the reader keeps. -/
theorem move_keeps {motive : Intake → Prop} {reader : Reader} (start : motive reader.intake)
    (round : ∀ intake, intake.wants = true → motive intake → motive intake.round.2)
    (mark : ∀ intake window, window.cells = intake.window.cells → motive intake →
      motive { intake with window := window }) (move : Move) :
    motive (reader.move move).intake := by
  have supplied : motive (reader.supplied move) := by
    cases move with
    | next => exact Intake.fill_keeps start round
    | backup count => exact start
    | cut => exact start
  obtain ⟨cells, same⟩ := reader.move_intake move
  rw [same]
  exact mark _ _ cells supplied

theorem moveAll_keeps {motive : Intake → Prop} {reader : Reader} (start : motive reader.intake)
    (round : ∀ intake, intake.wants = true → motive intake → motive intake.round.2)
    (mark : ∀ intake window, window.cells = intake.window.cells → motive intake →
      motive { intake with window := window }) (moves : List Move) :
    motive (reader.moveAll moves).intake := by
  induction moves generalizing reader with
  | nil => exact start
  | cons move others ih => exact ih (move_keeps start round mark move)

/-- The source has been read some times, and what came has been put behind the bytes in use. -/
theorem Laid.next_took {reader : Reader} (laid : reader.Laid) :
    ∃ count, reader.next.2.intake.source =
        reader.intake.source.afterReads reader.intake.sizing.chunk count ∧
      reader.next.2.intake.window.kept = reader.intake.window.kept ++
        reader.intake.source.handedOver reader.intake.sizing.chunk count := by
  obtain ⟨count, fed⟩ := laid.intake.fill
  refine ⟨count, ?_⟩
  rcases next_cases reader with same | ⟨rune, _, _, same⟩
  · rw [same]
    exact ⟨fed.source_eq, fed.kept_eq laid.intake⟩
  · rw [same]
    exact ⟨fed.source_eq, fed.kept_eq laid.intake⟩

theorem move_sizing (reader : Reader) (move : Move) :
    (reader.move move).intake.sizing = reader.intake.sizing := by
  apply move_keeps (motive := fun intake => intake.sizing = reader.intake.sizing) rfl
  · intro intake _ same
    exact intake.round_sizing.trans same
  · intro intake window _ same
    exact same

/-- Whatever a run does, the bytes in use grow by what is handed over and shrink by what is cut
off. -/
theorem Reaches.took {before after : Reader} {texts : List (List UInt8)}
    (reaches : Reaches before texts after) (laid : before.Laid) :
    after.intake.source = before.intake.source.afterReads before.intake.sizing.chunk
        (after.intake.source.reads - before.intake.source.reads) ∧
      texts.flatten ++ after.intake.window.kept = before.intake.window.kept ++
        before.intake.source.handedOver before.intake.sizing.chunk
          (after.intake.source.reads - before.intake.source.reads) := by
  have kept : after.Laid ∧ after.intake.sizing = before.intake.sizing ∧
      ∃ count, after.intake.source =
          before.intake.source.afterReads before.intake.sizing.chunk count ∧
        texts.flatten ++ after.intake.window.kept = before.intake.window.kept ++
          before.intake.source.handedOver before.intake.sizing.chunk count := by
    apply reaches.induction (motive := fun reader texts =>
      reader.Laid ∧ reader.intake.sizing = before.intake.sizing ∧
      ∃ count, reader.intake.source =
          before.intake.source.afterReads before.intake.sizing.chunk count ∧
        texts.flatten ++ reader.intake.window.kept = before.intake.window.kept ++
          before.intake.source.handedOver before.intake.sizing.chunk count)
    · exact ⟨laid, rfl, 0, rfl, (List.append_nil _).symm⟩
    · intro reader texts ⟨laid, sizing, count, source, conserved⟩
      obtain ⟨more, source', kept⟩ := laid.next_took
      rw [sizing, source] at source' kept
      refine ⟨laid.next, (move_sizing reader .next).trans sizing, count + more, ?_, ?_⟩
      · rw [source', Source.afterReads_add]
      · rw [kept, ← List.append_assoc, conserved, List.append_assoc, Source.handedOver_add]
    · intro reader texts back ⟨laid, sizing, count, source, conserved⟩
      refine ⟨laid.backup back, (move_sizing reader (.backup back)).trans sizing, count, ?_, ?_⟩
      · rw [backup_source, source]
      · rw [backup_kept, conserved]
    · intro reader texts ⟨laid, sizing, count, source, conserved⟩
      refine ⟨laid.ignore, sizing, count, source, ?_⟩
      rw [← conserved, ← laid.intake.ordered.pending_append_ahead,
        ← laid.ignore.intake.ordered.pending_append_ahead]
      change _ ++ (reader.ignore.pending ++ _) = _
      rw [pending_ignore, List.nil_append, List.flatten_append, List.flatten_singleton,
        List.append_assoc]
      rfl
  obtain ⟨_, _, count, source, conserved⟩ := kept
  have made : after.intake.source.reads - before.intake.source.reads = count := by
    rw [source, Source.reads_afterReads, Nat.add_sub_cancel_left]
  rw [made]
  exact ⟨source, conserved⟩

/-! ### Going back in parts -/

theorem backup_backup (reader : Reader) (first second : Nat) :
    (reader.backup first).backup second = reader.backup (first + second) := by
  have both := reader.history.rewind_rewind first second
  unfold backup
  rw [both]
  cases found : reader.history.rewind first with
  | mk snapshot earlier =>
      cases snapshot with
      | none =>
          have same := History.rewind_none found
          subst same
          simp only [Option.or_none]
      | some snapshot =>
          simp only
          cases again : earlier.rewind second with
          | mk further left =>
              cases further with
              | none =>
                  have same := History.rewind_none again
                  subst same
                  rfl
              | some further => rfl

end RuneScan.Reader
