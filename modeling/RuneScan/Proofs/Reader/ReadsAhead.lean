import RuneScan.Proofs.ReadDiscipline
import RuneScan.Proofs.Reader.SameMoves

/-!
Two readers alike over one source need not have read it equally often. The one that has read more
often stays so under the same commands: what the other would have to read to get past it, it would
have to read as well. So it is the first to learn of the end.
-/

namespace RuneScan

namespace Intake

variable {source : Source} {chunk count more : Nat} {intake left right : Intake}

/-! ### Rounds that are due -/

theorem Due.follows (sound : intake.Sound) (due : intake.Due count) {made : Nat}
    (within : made ≤ count) : Follows intake (intake.rounds made) := by
  induction made with
  | zero => exact .refl sound
  | succ made ih =>
      have earlier := ih (Nat.le_of_succ_le within)
      have live := (wants_iff.mp (due.wants made within)).1
      rw [rounds_succ]
      exact earlier.trans (earlier.sound.round live).1

theorem Recorded.rounds (recorded : Recorded source chunk count intake) (due : intake.Due more)
    {made : Nat} (within : made ≤ more) :
    Recorded source chunk (count + made) (intake.rounds made) := by
  induction made with
  | zero => exact recorded
  | succ made ih =>
      rw [rounds_succ]
      exact (ih (Nat.le_of_succ_le within)).round (due.wants made within)

theorem Recorded.reads_eq (recorded : Recorded source chunk count intake) :
    intake.source.reads = source.reads + count := by
  rw [recorded.source_eq, Source.reads_afterReads]

/-- A fill reads at least once where that is due. -/
theorem Laid.reads_lt_fill (laid : intake.Laid) (wants : intake.wants = true) :
    intake.source.reads < intake.fill.source.reads := by
  obtain ⟨rounds, missing⟩ := Nat.exists_eq_add_of_lt (wants_iff.mp wants).2
  have bound : Utf8.maxWidth - intake.window.unread = rounds + 1 := by omega
  have first := laid.round.reads_eq
  unfold Intake.fill
  rw [bound]
  simp only [fillWithin, wants, if_true]
  split
  · obtain ⟨others, _, same, _⟩ := fillWithin_due rounds intake.round.2
    have later := (laid.round.laid.rounds others).reads_eq
    rw [same]
    omega
  · omega

/-- Where the source is always ready, a fill does not stop at a truncated front while more may
come. -/
theorem Sound.fill_settled (sound : intake.Sound) (steady : intake.source.stalls = 0)
    (live : intake.fill.condition.isLive = true) :
    Utf8.isTruncated intake.fill.window.ahead = false := by
  cases sound.fill.2 with
  | ended finished =>
      rw [not_live_of_ended finished] at live
      cases live
  | decodable _ _ settled => exact settled
  | stalled _ stalled =>
      have fewer := stalled.1
      rw [steady] at fewer
      exact absurd fewer (Nat.not_lt_zero _)

/-! ### The same number of reads -/

/-- Two intakes with the same bytes to come that have read one source equally often have the same
bytes ahead, if more may come. -/
theorem Recorded.same_ahead (first : Recorded source chunk count left)
    (second : Recorded source chunk count right) (sound : right.Sound)
    (coming : left.coming = right.coming) (live : left.condition.isLive = true) :
    right.condition.isLive = true ∧ right.window.ahead = left.window.ahead := by
  have error : right.condition.error? = none := by
    rw [second.error_eq, ← first.error_eq]
    exact error?_of_live live
  have ready : right.condition.isLive = true := by
    apply sound.known.resolve_right
    rw [hasEnded, error]
    exact Bool.false_ne_true
  refine ⟨ready, ?_⟩
  rw [coming_of_live live, coming_of_live ready, first.source_eq, second.source_eq] at coming
  exact (List.append_cancel_right coming).symm

/-- Of two intakes with the same bytes to come, the one that has read the source at least as often
still has when both have been filled. -/
theorem Recorded.fill_reads_le (first : Recorded source chunk count left)
    (second : Recorded source chunk more right) (sound : left.Sound) (also : right.Sound)
    (steady : right.source.stalls = 0) (coming : left.coming = right.coming)
    (fewer : count ≤ more) : left.fill.source.reads ≤ right.fill.source.reads := by
  obtain ⟨made, _, filled, due⟩ :=
    fillWithin_due (Utf8.maxWidth - left.window.unread) left
  obtain ⟨others, _, refilled, pending⟩ :=
    fillWithin_due (Utf8.maxWidth - right.window.unread) right
  have goal : left.fill.source.reads = source.reads + (count + made) := by
    rw [fill, filled]
    exact (first.rounds due (Nat.le_refl _)).reads_eq
  have follows := also.fill.1
  have after : Recorded source chunk (more + others) right.fill := by
    rw [fill, refilled]
    exact second.rounds pending (Nat.le_refl _)
  rw [goal, after.reads_eq]
  apply Nat.not_lt.mp
  intro less
  -- The left intake comes by the point where the right one stops, and goes on.
  obtain ⟨passed, same⟩ : ∃ passed, count + passed = more + others :=
    ⟨more + others - count, by omega⟩
  have beyond : passed < made := by omega
  have wants := due.wants passed beyond
  have middle := first.rounds due (Nat.le_of_lt beyond)
  have between := due.follows sound (Nat.le_of_lt beyond)
  rw [same] at middle
  obtain ⟨live, ahead⟩ := middle.same_ahead after follows.sound
    ((between.coming_eq.trans coming).trans follows.coming_eq.symm) (wants_iff.mp wants).1
  cases passed with
  | zero =>
      obtain rfl : others = 0 := by omega
      have still : right.fill = right := refilled
      rw [still] at live ahead
      have few : right.window.unread < Utf8.maxWidth := by
        rw [← also.ordered.length_ahead, ahead, between.sound.ordered.length_ahead]
        exact (wants_iff.mp wants).2
      have reads := also.toLaid.reads_lt_fill (wants_iff.mpr ⟨live, few⟩)
      rw [still] at reads
      exact Nat.lt_irrefl _ reads
  | succ passed =>
      have truncated := due.truncated passed beyond
      rw [isTruncated_lookahead, ← ahead, also.fill_settled steady live] at truncated
      cases truncated

end Intake

namespace Reader

variable {source : Source} {sizing : Sizing} {left right : Reader}

theorem Reaches.recorded {texts : List (List UInt8)} {reader : Reader}
    (reaches : Reaches (start source sizing) texts reader) :
    ∃ count, Intake.Recorded source sizing.clamp.chunk count reader.intake := by
  obtain ⟨moves, rfl, _⟩ := reaches
  exact recorded_moveAll source sizing moves

theorem Reaches.reads_le {before after : Reader} {texts : List (List UInt8)}
    (reaches : Reaches before texts after) (laid : before.Laid) :
    before.intake.source.reads ≤ after.intake.source.reads := by
  have grown := congrArg Source.reads (reaches.took laid).1
  rw [Source.reads_afterReads] at grown
  omega

structure Behind (source : Source) (sizing : Sizing) (left right : Reader) : Prop where
  alike : Alike left right
  left_reached : ∃ texts, Reaches (start source sizing) texts left
  right_reached : ∃ texts, Reaches (start source sizing) texts right
  reads_le : left.intake.source.reads ≤ right.intake.source.reads

theorem Behind.next_reads_le (behind : Behind source sizing left right) :
    left.next.2.intake.source.reads ≤ right.next.2.intake.source.reads := by
  obtain ⟨_, reached⟩ := behind.left_reached
  obtain ⟨_, arrived⟩ := behind.right_reached
  obtain ⟨count, first⟩ := reached.recorded
  obtain ⟨more, second⟩ := arrived.recorded
  have fewer := behind.reads_le
  rw [first.reads_eq, second.reads_eq] at fewer
  have filled (reader : Reader) : reader.next.2.intake.source = reader.intake.fill.source := by
    have same := congrArg Intake.source (reader.move_intake .next).2
    exact same
  rw [filled, filled]
  exact first.fill_reads_le second behind.alike.left_sound.intake behind.alike.right_sound.intake
    behind.alike.right_steady behind.alike.coming_eq (by omega)

theorem Behind.move (behind : Behind source sizing left right) (move : Move) :
    Behind source sizing (left.move move) (right.move move) := by
  obtain ⟨_, reached⟩ := behind.left_reached
  obtain ⟨_, arrived⟩ := behind.right_reached
  refine ⟨?_, ⟨_, reached.trans (moveAll_reaches left [move])⟩,
    ⟨_, arrived.trans (moveAll_reaches right [move])⟩, ?_⟩
  · cases move with
    | next => exact behind.alike.next.2
    | backup count => exact behind.alike.backup count
    | cut => exact behind.alike.ignore
  · cases move with
    | next => exact behind.next_reads_le
    | backup count =>
        change (left.backup count).intake.source.reads ≤ (right.backup count).intake.source.reads
        rw [backup_source, backup_source]
        exact behind.reads_le
    | cut => exact behind.reads_le

theorem Behind.moveAll (behind : Behind source sizing left right) (moves : List Move) :
    Behind source sizing (left.moveAll moves) (right.moveAll moves) := by
  induction moves generalizing left right with
  | nil => exact behind
  | cons move others ih => exact ih (behind.move move)

theorem Behind.perform (behind : Behind source sizing left right) (command : Command) :
    Behind source sizing (left.perform command).2 (right.perform command).2 := by
  have moved := behind.moveAll (left.movesBy command)
  rw [(perform_leads left command).moveAll_eq, behind.alike.movesBy_eq command,
    (perform_leads right command).moveAll_eq] at moved
  exact moved

/-- The right reader has learned all that the left one has. -/
theorem Behind.error?_of (behind : Behind source sizing left right) {error : ReadError}
    (known : left.error? = some error) : right.error? = some error := by
  obtain ⟨_, reached⟩ := behind.left_reached
  obtain ⟨_, arrived⟩ := behind.right_reached
  obtain ⟨count, first⟩ := reached.recorded
  obtain ⟨total, second⟩ := arrived.recorded
  have fewer := behind.reads_le
  rw [first.reads_eq, second.reads_eq] at fewer
  obtain ⟨more, rfl⟩ := Nat.exists_eq_add_of_le (Nat.le_of_add_le_add_left fewer)
  have early : (source.outcomes sizing.clamp.chunk count).findSome? Outcome.error? = some error :=
    first.error_eq.symm.trans known
  apply second.error_eq.trans
  rw [Source.outcomes_add, List.findSome?_append, early, Option.some_or]

theorem Behind.isExhausted_of (behind : Behind source sizing left right)
    (done : left.isExhausted = true) : right.isExhausted = true := by
  simp only [isExhausted, Bool.and_eq_true, beq_iff_eq, List.isEmpty_iff] at done ⊢
  obtain ⟨known, nothing⟩ := done
  have learned := behind.error?_of known
  have ended (reader : Reader) (known : reader.error? = some .endOfStream) :
      reader.coming = reader.intake.window.ahead :=
    Intake.coming_of_ended (Option.isSome_iff_exists.mpr ⟨_, known⟩)
  refine ⟨learned, ?_⟩
  rw [← ended right learned, ← behind.alike.coming_eq, ended left known]
  exact nothing

end Reader
end RuneScan
