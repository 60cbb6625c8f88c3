import RuneScan.Intake
import RuneScan.Window.Views
import RuneScan.Proofs.Source.Stream

/-!
The layout of an intake, whatever its source does. The marks stay in order, and when a read is made a
whole chunk fits behind the bytes in use. So a round puts what came behind the unread bytes and leaves
the others as they are, and a fill is some rounds in a row.
-/

namespace RuneScan

namespace Window

theorem Ordered.pending_eq_take {window : Window} (ordered : window.Ordered) :
    window.pending = window.kept.take window.offset := by
  rw [← ordered.pending_append_ahead, ← ordered.length_pending, List.take_left]

theorem Ordered.ahead_eq_drop {window : Window} (ordered : window.Ordered) :
    window.ahead = window.kept.drop window.offset := by
  rw [← ordered.pending_append_ahead, ← ordered.length_pending, List.drop_left]

theorem Ordered.adjust_room {window : Window} (ordered : window.Ordered) {chunk : Nat}
    (roomy : chunk ≤ window.cells.size) :
    (window.adjust (window.adjustment chunk)).head + chunk ≤
      (window.adjust (window.adjustment chunk)).cells.size := by
  rcases ordered with ⟨start_le, current_le, head_le⟩
  unfold adjustment
  split
  · split
    · rename_i tight
      simp only [retained] at tight
      simp only [Window.adjust, Window.grow, Array.size_append, Array.size_replicate]
      omega
    · rename_i loose
      simp only [retained] at loose
      simp only [Window.adjust, Window.slide, size_overwrite]
      omega
  · simp only [Window.adjust]
    omega

/-- Bytes are moved only where that frees a cell. -/
theorem start_pos_of_slide {window : Window} {chunk : Nat} (roomy : chunk ≤ window.cells.size)
    (slides : window.adjustment chunk = .slide) : 0 < window.start := by
  unfold adjustment at slides
  split at slides
  · rename_i short
    split at slides
    · cases slides
    · rename_i loose
      simp only [retained] at loose
      omega
  · cases slides

end Window

namespace Intake

structure Laid (intake : Intake) : Prop where
  ordered : intake.window.Ordered
  chunk_pos : 0 < intake.sizing.chunk
  chunk_le : intake.sizing.chunk ≤ intake.sizing.capacity
  roomy : intake.window.cells.size = 0 ∨ intake.sizing.chunk ≤ intake.window.cells.size

theorem laid_start (source : Source) (sizing : Sizing) : (start source sizing).Laid :=
  { ordered := Window.ordered_empty
    chunk_pos := sizing.clamp_chunk_pos
    chunk_le := sizing.clamp_chunk_le_capacity
    roomy := .inl rfl }

theorem Laid.moved {intake : Intake} (laid : intake.Laid) {window : Window}
    (ordered : window.Ordered) (cells : window.cells = intake.window.cells) :
    Laid { intake with window := window } :=
  { laid with
    ordered := ordered
    roomy := by simpa only [cells] using laid.roomy }

/-- The source has been read `count` times. What came stands behind the unread bytes. -/
structure Fed (before : Intake) (count : Nat) (after : Intake) : Prop where
  laid : after.Laid
  sizing_eq : after.sizing = before.sizing
  source_eq : after.source = before.source.afterReads before.sizing.chunk count
  pending_eq : after.window.pending = before.window.pending
  ahead_eq : after.window.ahead =
    before.window.ahead ++ before.source.handedOver before.sizing.chunk count

theorem Fed.refl {intake : Intake} (laid : intake.Laid) : Fed intake 0 intake :=
  ⟨laid, rfl, rfl, rfl, (List.append_nil _).symm⟩

theorem Fed.trans {first second third : Intake} {count more : Nat}
    (earlier : Fed first count second) (later : Fed second more third) :
    Fed first (count + more) third := by
  have source := later.source_eq
  have ahead := later.ahead_eq
  rw [earlier.sizing_eq, earlier.source_eq] at source ahead
  refine ⟨later.laid, later.sizing_eq.trans earlier.sizing_eq, ?_,
    later.pending_eq.trans earlier.pending_eq, ?_⟩
  · rw [source, Source.afterReads_add]
  · rw [ahead, earlier.ahead_eq, List.append_assoc, Source.handedOver_add]

theorem Fed.kept_eq {before after : Intake} {count : Nat} (fed : Fed before count after)
    (laid : before.Laid) : after.window.kept =
      before.window.kept ++ before.source.handedOver before.sizing.chunk count := by
  rw [← fed.laid.ordered.pending_append_ahead, ← laid.ordered.pending_append_ahead,
    fed.pending_eq, fed.ahead_eq, List.append_assoc]

theorem Fed.offset_eq {before after : Intake} {count : Nat} (fed : Fed before count after)
    (laid : before.Laid) : after.window.offset = before.window.offset := by
  rw [← fed.laid.ordered.length_pending, ← laid.ordered.length_pending, fed.pending_eq]

theorem Fed.reads_eq {before after : Intake} {count : Nat} (fed : Fed before count after) :
    after.source.reads = before.source.reads + count := by
  rw [fed.source_eq, Source.reads_afterReads]

/-! ### One round -/

theorem Laid.allocate_roomy {intake : Intake} (laid : intake.Laid) :
    intake.sizing.chunk ≤ (intake.window.allocate intake.sizing.capacity).cells.size := by
  unfold Window.allocate
  split
  · simpa using laid.chunk_le
  · rename_i cells
    rcases laid.roomy with none | some
    · rw [Array.isEmpty_iff_size_eq_zero] at cells
      contradiction
    · exact some

theorem Laid.makeRoom_fits {intake : Intake} (laid : intake.Laid) :
    intake.makeRoom.window.head + intake.sizing.chunk ≤ intake.makeRoom.window.cells.size :=
  (laid.ordered.allocate intake.sizing.capacity).adjust_room laid.allocate_roomy

private theorem makeRoom_offset (intake : Intake) :
    intake.makeRoom.window.offset = intake.window.offset := by
  have marks := intake.window.allocate_marks intake.sizing.capacity
  apply (Window.adjust_offset _ _).trans
  simp only [Window.offset, marks.1, marks.2.1]

theorem Laid.makeRoom {intake : Intake} (laid : intake.Laid) : Fed intake 0 intake.makeRoom := by
  have ordered : intake.makeRoom.window.Ordered := (laid.ordered.allocate _).adjust _
  have kept : intake.makeRoom.window.kept = intake.window.kept :=
    ((laid.ordered.allocate _).kept_adjust _).trans (laid.ordered.kept_allocate _)
  refine ⟨⟨ordered, laid.chunk_pos, laid.chunk_le, .inr ?_⟩, rfl, rfl, ?_, ?_⟩
  · exact Nat.le_trans (Nat.le_add_left _ _) laid.makeRoom_fits
  · rw [ordered.pending_eq_take, laid.ordered.pending_eq_take, kept, makeRoom_offset]
  · rw [Source.handedOver, List.append_nil, ordered.ahead_eq_drop, laid.ordered.ahead_eq_drop,
      kept, makeRoom_offset]

theorem Laid.enter {ready : Intake} (laid : ready.Laid)
    (fits : ready.window.head + ready.sizing.chunk ≤ ready.window.cells.size)
    {outcome : Outcome} {source : Source}
    (read : ready.source.read ready.sizing.chunk = (outcome, source)) :
    Fed ready 1 (Intake.enter { ready with source := source } outcome) := by
  have size := ready.source.read_size_le ready.sizing.chunk
  have source_eq : source = ready.source.afterReads ready.sizing.chunk 1 := by
    rw [Source.afterReads, read, Source.afterReads]
  have came : ready.source.handedOver ready.sizing.chunk 1 = outcome.bytes := by
    rw [Source.handedOver, read, Source.handedOver, List.append_nil]
  rw [read] at size
  -- Only an outcome with bytes in it touches the window.
  have untouched (none : outcome.bytes = []) {condition : Condition}
      {journal : List TraceEvent} : Fed ready 1 { ready with
        source := source, condition := condition, journal := journal } := by
    refine ⟨{ laid with }, rfl, source_eq, rfl, ?_⟩
    rw [came, none, List.append_nil]
  have entered := Intake.entered { ready with source := source } outcome
  generalize Intake.enter { ready with source := source } outcome = after at entered ⊢
  cases entered with
  | finished => exact untouched rfl
  | stored byte bytes within =>
      have stored : ready.window.head + (byte :: bytes).length ≤ ready.window.cells.size :=
        Nat.le_trans (Nat.add_le_add_left within _) fits
      refine ⟨{ laid with ordered := laid.ordered.store stored, roomy := .inr ?_ }, rfl, source_eq,
        laid.ordered.pending_store stored, (laid.ordered.ahead_store stored).trans ?_⟩
      · simp only [Window.store, size_overwrite]
        exact Nat.le_trans (Nat.le_add_left _ _) fits
      · rw [came]
        rfl
  | notReady fault _ => exact untouched rfl
  | broken fault _ => exact untouched rfl
  | violated _ beyond =>
      obtain ⟨excess, rfl⟩ := Outcome.exists_excess size beyond
      exact untouched rfl

theorem Laid.round {intake : Intake} (laid : intake.Laid) : Fed intake 1 intake.round.2 := by
  have made := laid.makeRoom
  have entered := made.laid.enter laid.makeRoom_fits rfl
  exact made.trans entered

/-! ### Some rounds in a row -/

def rounds : Nat → Intake → Intake
  | 0, intake => intake
  | count + 1, intake => intake.round.2.rounds count

theorem Laid.rounds {intake : Intake} (laid : intake.Laid) (count : Nat) :
    Fed intake count (intake.rounds count) := by
  induction count generalizing intake with
  | zero => exact .refl laid
  | succ count ih =>
      have later := laid.round.trans (ih laid.round.laid)
      rw [Nat.add_comm] at later
      exact later

theorem rounds_succ (intake : Intake) (count : Nat) :
    intake.rounds (count + 1) = (intake.rounds count).round.2 := by
  induction count generalizing intake with
  | zero => rfl
  | succ count ih => exact ih intake.round.2

/-! ### The rounds that are made -/

structure Due (intake : Intake) (count : Nat) : Prop where
  wants : ∀ made < count, (intake.rounds made).wants = true
  came : ∀ made, made + 1 < count → (intake.rounds made).round.1 ≠ 0
  truncated : ∀ made, made + 1 < count →
    Utf8.isTruncated (intake.rounds (made + 1)).window.lookahead = true

theorem due_zero (intake : Intake) : Due intake 0 :=
  ⟨fun _ less => absurd less (Nat.not_lt_zero _), fun _ less => absurd less (Nat.not_lt_zero _),
    fun _ less => absurd less (Nat.not_lt_zero _)⟩

theorem due_one {intake : Intake} (wants : intake.wants = true) : Due intake 1 := by
  refine ⟨?_, fun _ less => absurd less (by omega), fun _ less => absurd less (by omega)⟩
  intro made less
  obtain rfl := Nat.lt_one_iff.mp less
  exact wants

theorem Due.succ {intake : Intake} {count : Nat} (due : Due intake.round.2 count)
    (wants : intake.wants = true) (came : intake.round.1 ≠ 0)
    (truncated : Utf8.isTruncated intake.round.2.window.lookahead = true) :
    Due intake (count + 1) := by
  refine ⟨?_, ?_, ?_⟩
  · intro made less
    cases made with
    | zero => exact wants
    | succ made => exact due.wants made (Nat.lt_of_succ_lt_succ less)
  · intro made less
    cases made with
    | zero => exact came
    | succ made => exact due.came made (Nat.lt_of_succ_lt_succ less)
  · intro made less
    cases made with
    | zero => exact truncated
    | succ made => exact due.truncated made (Nat.lt_of_succ_lt_succ less)

theorem fillWithin_due (bound : Nat) (intake : Intake) :
    ∃ count ≤ bound, intake.fillWithin bound = intake.rounds count ∧ Due intake count := by
  induction bound generalizing intake with
  | zero => exact ⟨0, Nat.le_refl _, rfl, due_zero intake⟩
  | succ bound ih =>
      simp only [fillWithin]
      split
      · rename_i wants
        split
        · rename_i goes
          simp only [ne_eq, Bool.and_eq_true, decide_eq_true_eq] at goes
          obtain ⟨count, within, same, due⟩ := ih intake.round.2
          exact ⟨count + 1, Nat.succ_le_succ within, same, due.succ wants goes.1 goes.2⟩
        · exact ⟨1, Nat.succ_le_succ (Nat.zero_le _), rfl, due_one wants⟩
      · exact ⟨0, Nat.zero_le _, rfl, due_zero intake⟩

theorem fill_eq_rounds (intake : Intake) :
    ∃ count ≤ Utf8.maxWidth, intake.fill = intake.rounds count := by
  obtain ⟨count, within, same, _⟩ := fillWithin_due (Utf8.maxWidth - intake.window.unread) intake
  exact ⟨count, Nat.le_trans within (Nat.sub_le _ _), same⟩

theorem Laid.fill {intake : Intake} (laid : intake.Laid) : ∃ count, Fed intake count intake.fill := by
  obtain ⟨count, _, same⟩ := intake.fill_eq_rounds
  rw [same]
  exact ⟨count, laid.rounds count⟩

end Intake
end RuneScan
