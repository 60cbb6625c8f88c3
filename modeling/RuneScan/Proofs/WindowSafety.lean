import RuneScan.Proofs.Reader.Layout
import RuneScan.Proofs.Reader.Operations

/-!
The window is safe. Whatever the source does and however it is asked, no index leaves the cells, no
difference of marks or lengths falls below zero, and a read is made into a whole chunk of free cells.
What is left to go wrong is a source that claims more bytes than it was asked for.
-/

namespace RuneScan

/-! ### The one breach -/

namespace Intake

/-- An intake that began on the source finds fault only with what the source was to play. -/
structure Blames (source : Source) (chunk : Nat) (intake : Intake) : Prop where
  chunk_eq : intake.sizing.chunk = chunk
  claims : ∀ excess : Excess,
    .overclaim excess ∈ intake.source.events → .overclaim excess ∈ source.events
  violated : ∀ claimed requested, intake.condition = .violated claimed requested →
    requested = chunk ∧
      ∃ excess : Excess, .overclaim excess ∈ source.events ∧ claimed = requested + excess.count

theorem blames_start (source : Source) (sizing : Sizing) :
    Blames source sizing.clamp.chunk (start source sizing) :=
  ⟨rfl, fun _ member => member, fun _ _ broken => by cases broken⟩

theorem Blames.round {source : Source} {chunk : Nat} {intake : Intake}
    (blames : Blames source chunk intake) : Blames source chunk intake.round.2 := by
  have claims : ∀ excess : Excess,
      .overclaim excess ∈ (intake.source.read intake.sizing.chunk).2.events →
        .overclaim excess ∈ source.events := by
    intro excess member
    rcases Source.mem_events_read member with earlier | ⟨bytes, data⟩
    · exact blames.claims excess earlier
    · cases data
  have size := intake.source.read_size_le intake.sizing.chunk
  have breach (excess : Excess)
      (read : (intake.source.read intake.sizing.chunk).1 = .overclaimed excess) :=
    blames.claims excess (Source.overclaim_of_read read)
  have entered := Intake.entered { intake.makeRoom with
    source := (intake.source.read intake.sizing.chunk).2 }
      (intake.source.read intake.sizing.chunk).1
  change Entered _ _ intake.round.2 at entered
  generalize (intake.source.read intake.sizing.chunk).1 = outcome at size breach entered
  generalize intake.round.2 = after at entered ⊢
  cases entered with
  | finished => exact ⟨blames.chunk_eq, claims, fun _ _ broken => by cases broken⟩
  | stored byte bytes _ => exact ⟨blames.chunk_eq, claims, blames.violated⟩
  | notReady fault _ => exact ⟨blames.chunk_eq, claims, blames.violated⟩
  | broken fault _ => exact ⟨blames.chunk_eq, claims, fun _ _ broken => by cases broken⟩
  | violated _ beyond =>
      refine ⟨blames.chunk_eq, claims, ?_⟩
      intro claimed requested broken
      obtain ⟨rfl, rfl⟩ := Condition.violated.inj broken
      obtain ⟨excess, rfl⟩ := Outcome.exists_excess size beyond
      exact ⟨blames.chunk_eq, excess, breach excess rfl, rfl⟩

theorem Blames.rounds {source : Source} {chunk : Nat} {intake : Intake}
    (blames : Blames source chunk intake) (count : Nat) :
    Blames source chunk (intake.rounds count) := by
  induction count generalizing intake with
  | zero => exact blames
  | succ count ih => exact ih blames.round

theorem Blames.moved {source : Source} {chunk : Nat} {intake : Intake}
    (blames : Blames source chunk intake) (window : Window) :
    Blames source chunk { intake with window := window } :=
  ⟨blames.chunk_eq, blames.claims, blames.violated⟩

end Intake

namespace Reader

/-! ### Attempts at a literal -/

/-- Takes runes as long as they are those of the literal, and gives none back. -/
def attempt : List Char → Reader → Bool × Reader
  | [], reader => (true, reader)
  | expected :: rest, reader =>
      match reader.next with
      | (none, after) => (false, after)
      | (some rune, after) => if rune = expected then attempt rest after else (false, after)

theorem attempt_history (literal : List Char) (reader : Reader) :
    ∃ passed, (reader.attempt literal).2.history = passed ++ reader.history ∧
      ((reader.attempt literal).1 = true → passed.length = literal.length) := by
  induction literal generalizing reader with
  | nil => exact ⟨[], rfl, fun _ => rfl⟩
  | cons expected rest ih =>
      unfold attempt
      split
      · rename_i after missed
        refine ⟨[], next_none_history missed, ?_⟩
        intro taken
        cases taken
      · rename_i rune after taken
        obtain ⟨offset, grown, _⟩ := next_some_history taken
        split
        · obtain ⟨passed, history, whole⟩ := ih after
          refine ⟨passed ++ [⟨offset, reader.position⟩], ?_, ?_⟩
          · rw [history, grown, List.append_assoc, List.singleton_append]
          · intro matched
            rw [List.length_append, whole matched]
            rfl
        · refine ⟨[⟨offset, reader.position⟩], grown, ?_⟩
          intro taken
          cases taken

theorem attempt_history_le (literal : List Char) (reader : Reader) :
    reader.history.length ≤ (reader.attempt literal).2.history.length := by
  obtain ⟨passed, history, _⟩ := reader.attempt_history literal
  rw [history, List.length_append]
  exact Nat.le_add_left _ _

theorem backup_zero (reader : Reader) : reader.backup 0 = reader := rfl

/-- Giving runes back one by one comes to giving back at once as many as were taken. -/
theorem acceptLiteral_eq_attempt (literal : List Char) (reader : Reader) :
    reader.acceptLiteral literal =
      if (reader.attempt literal).1 then (true, (reader.attempt literal).2)
      else (false, (reader.attempt literal).2.backup
        ((reader.attempt literal).2.history.length - reader.history.length)) := by
  induction literal generalizing reader with
  | nil => rfl
  | cons expected rest ih =>
      unfold acceptLiteral attempt
      cases taken : reader.next with
      | mk answer after =>
          cases answer with
          | none =>
              simp only [next_none_history taken, Nat.sub_self, backup_zero, Bool.false_eq_true,
                if_false]
          | some rune =>
              obtain ⟨offset, grown, _⟩ := next_some_history taken
              by_cases same : rune = expected
              · have longer := after.attempt_history_le rest
                rw [grown, List.length_cons] at longer
                simp only [same, if_true, ih after]
                cases (after.attempt rest).1 with
                | true => rfl
                | false =>
                    simp only [Bool.false_eq_true, if_false, backup_backup, grown,
                      List.length_cons]
                    congr 2
                    omega
              · simp only [same, if_false, grown, List.length_cons, Nat.add_sub_cancel_left,
                  Bool.false_eq_true]

theorem acceptLiteral_taken_history {literal : List Char} {reader after : Reader}
    (taken : reader.acceptLiteral literal = (true, after)) :
    after.history.length = reader.history.length + literal.length := by
  obtain ⟨passed, history, whole⟩ := reader.attempt_history literal
  rw [acceptLiteral_eq_attempt] at taken
  split at taken
  · rename_i matched
    rw [← (Prod.mk.inj taken).2, history, List.length_append, whole matched, Nat.add_comm]
  · cases (Prod.mk.inj taken).1

/-- What a search counts is what it has added to the history. -/
theorem seekPast_history (literal : List Char) (reader : Reader) :
    (reader.seekPast literal).2.history.length =
      reader.history.length + (reader.seekPast literal).1.count := by
  fun_induction seekPast literal reader with
  | case1 reader after taken => exact acceptLiteral_taken_history taken
  | case2 reader after missed last same =>
      rw [next_none_history same, (acceptLiteral_missed missed).2]
      rfl
  | case3 reader after missed rune last same search finish result ih =>
      obtain ⟨offset, grown, _⟩ := next_some_history same
      rw [result, grown, (acceptLiteral_missed missed).2, List.length_cons] at ih
      exact ih.trans (Nat.succ_add_eq_add_succ _ _)

theorem seekPast_length_le {literal : List Char} {reader : Reader}
    (found : (reader.seekPast literal).1.found = true) :
    literal.length ≤ (reader.seekPast literal).1.count := by
  fun_induction seekPast literal reader with
  | case1 reader after taken => exact Nat.le_refl _
  | case2 reader after missed last same => cases found
  | case3 reader after missed rune last same search finish result ih =>
      rw [result] at ih
      exact Nat.le_succ_of_le (ih found)

end Reader

/-! ### Safety -/

structure RoundSafe (chunk : Nat) (intake : Intake) : Prop where
  chunk_eq : intake.sizing.chunk = chunk
  /-- Each mark may be taken from those after it, and `head` from the number of cells. -/
  ordered : (intake.window.allocate intake.sizing.capacity).Ordered
  chunk_le : chunk ≤ (intake.window.allocate intake.sizing.capacity).cells.size
  shift_pos : (intake.window.allocate intake.sizing.capacity).adjustment chunk = .slide →
    0 < (intake.window.allocate intake.sizing.capacity).start
  region_le : intake.makeRoom.window.head + chunk ≤ intake.makeRoom.window.cells.size
  size_region : (intake.makeRoom.window.cells.extract intake.makeRoom.window.head
    (intake.makeRoom.window.head + chunk)).size = chunk
  ordered_after : intake.round.2.window.Ordered
  breaks_iff : intake.condition.isLive = true → (intake.round.2.condition.violation?.isSome = true ↔
    chunk < (intake.source.read chunk).1.claimed chunk)

theorem Intake.Laid.roundSafe {intake : Intake} (laid : intake.Laid) :
    RoundSafe intake.sizing.chunk intake := by
  have region := laid.makeRoom_fits
  refine
    { chunk_eq := rfl
      ordered := laid.ordered.allocate _
      chunk_le := laid.allocate_roomy
      shift_pos := Window.start_pos_of_slide laid.allocate_roomy
      region_le := region
      size_region := ?_
      ordered_after := laid.round.laid.ordered
      breaks_iff := intake.round_breaks_iff }
  rw [Array.size_extract]
  omega

structure WindowSafe (source : Source) (chunk : Nat) (reader : Reader) : Prop where
  ordered : reader.intake.window.Ordered
  rounds : ∀ count, RoundSafe chunk (reader.intake.rounds count)
  fill : ∃ count ≤ Utf8.maxWidth, reader.intake.fill = reader.intake.rounds count
  consume : ∀ rune,
    Utf8.decode reader.intake.fill.window.lookahead reader.intake.fill.hasEnded = .rune rune →
      reader.intake.fill.window.current + rune.width ≤ reader.intake.fill.window.head
  rewind : ∀ count snapshot earlier, reader.history.rewind count = (some snapshot, earlier) →
    reader.intake.window.start + snapshot.offset ≤ reader.intake.window.current
  /-- What an attempt at a literal has added to the history can be counted, and is given back if the
  attempt fails. -/
  attempt : ∀ literal, reader.history.length ≤ (reader.attempt literal).2.history.length ∧
    reader.acceptLiteral literal =
      if (reader.attempt literal).1 then (true, (reader.attempt literal).2)
      else (false, (reader.attempt literal).2.backup
        ((reader.attempt literal).2.history.length - reader.history.length))
  taken : ∀ literal after, reader.acceptLiteral literal = (true, after) →
    after.history.length = reader.history.length + literal.length
  /-- A search counts what it has added to the history, and that is no less than the literal that it
  has found. -/
  seek : ∀ literal, (reader.seekPast literal).2.history.length =
      reader.history.length + (reader.seekPast literal).1.count ∧
    ((reader.seekPast literal).1.found = true →
      literal.length ≤ (reader.seekPast literal).1.count)
  /-- The reader breaks down only if the source claims more bytes than the chunk it was asked for. -/
  violated : ∀ claimed requested, reader.intake.condition = .violated claimed requested →
    requested = chunk ∧ requested < claimed ∧
      ∃ excess : Excess, .overclaim excess ∈ source.events ∧ claimed = requested + excess.count

private theorem Reader.Laid.windowSafe {reader : Reader} (laid : reader.Laid) {source : Source}
    {chunk : Nat} (blames : Intake.Blames source chunk reader.intake) :
    WindowSafe source chunk reader := by
  refine
    { ordered := laid.intake.ordered
      rounds := ?_
      fill := reader.intake.fill_eq_rounds
      consume := ?_
      rewind := ?_
      attempt := fun literal =>
        ⟨reader.attempt_history_le literal, reader.acceptLiteral_eq_attempt literal⟩
      taken := fun _ _ => Reader.acceptLiteral_taken_history
      seek := fun literal => ⟨reader.seekPast_history literal, Reader.seekPast_length_le⟩
      violated := ?_ }
  · intro count
    have safe := (laid.intake.rounds count).laid.roundSafe
    rw [(blames.rounds count).chunk_eq] at safe
    exact safe
  · intro rune decoded
    have ordered : reader.intake.fill.window.current ≤ reader.intake.fill.window.head :=
      laid.fill.intake.ordered.current_le
    have width := Nat.le_trans (Utf8.decode_rune_width decoded).2
      (Window.lookahead_length_le_unread _)
    simp only [Window.unread] at width
    omega
  · intro count snapshot earlier found
    have within := laid.rewind_le found
    have ordered := laid.intake.ordered.start_le
    simp only [Window.offset] at within
    omega
  · intro claimed requested broken
    obtain ⟨same, excess, member, sum⟩ := blames.violated claimed requested broken
    have positive := excess.positive
    exact ⟨same, by omega, excess, member, sum⟩

/-- Every state between the moves of any run is safe, and a run of commands is the run of the moves it
makes. -/
theorem window_stays_safe (source : Source) (sizing : Sizing) :
    (∀ moves, WindowSafe source sizing.clamp.chunk
      ((Reader.start source sizing).moveAll moves)) ∧
    ∀ commands, (Reader.start source sizing).moveAll
        ((Reader.start source sizing).movesByAll commands) =
      ((Reader.start source sizing).performAll commands).2 := by
  constructor
  · intro moves
    have laid := (Reader.moveAll_reaches _ moves).laid (Reader.laid_start source sizing)
    have blames : Intake.Blames source sizing.clamp.chunk
        ((Reader.start source sizing).moveAll moves).intake := by
      apply Reader.moveAll_keeps (motive := Intake.Blames source sizing.clamp.chunk)
      · exact Intake.blames_start source sizing
      · intro intake _ blames
        exact blames.round
      · intro intake window _ blames
        exact blames.moved window
    exact laid.windowSafe blames
  · intro commands
    exact (Reader.performAll_leads (Reader.start source sizing) commands).moveAll_eq

end RuneScan
