import RuneScan.Proofs.Reader.Layout
import RuneScan.Proofs.Reader.Operations
import RuneScan.Proofs.Utf8.Scalar

/-!
When the source is read, and what is kept of what it says. The first outcome that ends the stream is
put on record as it is, and is the last one: nothing reads after it. A call of `next` reads at most as
often as bytes are missing from four, goes on only while the bytes ahead are truncated, and leaves it
at the first read that brings nothing. No other move reads.
-/

namespace RuneScan

namespace Outcome

def error? : Outcome → Option ReadError
  | .delivered [] => some .endOfStream
  | .delivered (_ :: _) => none
  | .failed fault => if fault.kind.isTransient then none else some (.source fault)
  | .overclaimed _ => none

def isTransient : Outcome → Bool
  | .delivered _ => false
  | .failed fault => fault.kind.isTransient
  | .overclaimed _ => false

theorem bytes_of_transient {outcome : Outcome} (transient : outcome.isTransient = true) :
    outcome.bytes = [] := by
  cases outcome with
  | delivered bytes => cases transient
  | failed fault => rfl
  | overclaimed excess => rfl

/-- A claim that is too great is no error on record. -/
theorem error?_of_overclaimed {outcome : Outcome} {room : Nat}
    (beyond : room < outcome.claimed room) : outcome.error? = none := by
  cases outcome with
  | delivered bytes =>
      cases bytes with
      | nil => exact absurd beyond (Nat.not_lt_zero room)
      | cons byte bytes => rfl
  | failed fault => exact absurd beyond (Nat.not_lt_zero room)
  | overclaimed excess => rfl

end Outcome

namespace Intake

/-! ### The record -/

/-- The source has been read `count` times, and the error on record is the first that the outcomes
gave. It came with the last of them. -/
structure Recorded (source : Source) (chunk count : Nat) (intake : Intake) : Prop where
  chunk_eq : intake.sizing.chunk = chunk
  source_eq : intake.source = source.afterReads chunk count
  error_eq : intake.condition.error? = (source.outcomes chunk count).findSome? Outcome.error?
  earlier : ∀ outcome ∈ (source.outcomes chunk count).dropLast, outcome.error? = none

theorem recorded_start (source : Source) (sizing : Sizing) :
    Recorded source sizing.clamp.chunk 0 (start source sizing) :=
  ⟨rfl, rfl, rfl, fun _ member => by cases member⟩

theorem enter_error? {intake : Intake} (live : intake.condition.isLive = true)
    (outcome : Outcome) : (intake.enter outcome).condition.error? = outcome.error? := by
  have before := error?_of_live live
  have entered := intake.entered outcome
  generalize intake.enter outcome = after at entered ⊢
  cases entered with
  | finished => rfl
  | stored byte bytes _ => exact before
  | notReady fault transient =>
      rw [Outcome.error?, if_pos transient]
      exact before
  | broken fault lasting =>
      rw [Outcome.error?, if_neg (Bool.eq_false_iff.mp lasting)]
      rfl
  | violated _ beyond =>
      rw [Outcome.error?_of_overclaimed beyond]
      rfl

variable {source : Source} {chunk count : Nat} {intake : Intake}

theorem Recorded.round (recorded : Recorded source chunk count intake)
    (wants : intake.wants = true) : Recorded source chunk (count + 1) intake.round.2 := by
  have live := (wants_iff.mp wants).1
  have nothing : (source.outcomes chunk count).findSome? Outcome.error? = none :=
    recorded.error_eq.symm.trans (error?_of_live live)
  have read : intake.round.2.source = (intake.source.read intake.sizing.chunk).2 :=
    (Intake.entered _ _).same.2
  have error : intake.round.2.condition.error? =
      (intake.source.read intake.sizing.chunk).1.error? := enter_error? (by exact live) _
  rw [recorded.chunk_eq, recorded.source_eq] at read error
  constructor
  · rw [round_sizing]
    exact recorded.chunk_eq
  · rw [read, Source.afterReads_succ]
  · rw [error, Source.outcomes_succ, List.findSome?_append, nothing]
    rw [Option.none_or, List.findSome?_singleton]
  · rw [Source.outcomes_succ, List.dropLast_concat]
    exact List.findSome?_eq_none_iff.mp nothing

theorem Recorded.moved (recorded : Recorded source chunk count intake) (window : Window) :
    Recorded source chunk count { intake with window := window } :=
  ⟨recorded.chunk_eq, recorded.source_eq, recorded.error_eq, recorded.earlier⟩

end Intake

namespace Reader

variable {reader : Reader}

theorem recorded_moveAll (source : Source) (sizing : Sizing) (moves : List Move) :
    ∃ count, Intake.Recorded source sizing.clamp.chunk count
      ((start source sizing).moveAll moves).intake := by
  apply moveAll_keeps
    (motive := fun intake => ∃ count, Intake.Recorded source sizing.clamp.chunk count intake)
  · exact ⟨0, Intake.recorded_start source sizing⟩
  · intro intake wants ⟨count, recorded⟩
    exact ⟨count + 1, recorded.round wants⟩
  · intro intake window _ ⟨count, recorded⟩
    exact ⟨count, recorded.moved window⟩

/-- Once no more may come nothing is read, and what ended the stream stays on record. -/
theorem moveAll_of_ended (ended : reader.intake.condition.isLive = false) (moves : List Move) :
    (reader.moveAll moves).intake.condition = reader.intake.condition ∧
      (reader.moveAll moves).intake.source = reader.intake.source := by
  apply moveAll_keeps (motive := fun intake =>
    intake.condition = reader.intake.condition ∧ intake.source = reader.intake.source)
  · exact ⟨rfl, rfl⟩
  · intro intake wants ⟨same, _⟩
    have live := (Intake.wants_iff.mp wants).1
    rw [same, ended] at live
    cases live
  · intro intake window _ same
    exact same

theorem moveAll_of_no_next {moves : List Move} (silent : .next ∉ moves) :
    (reader.moveAll moves).intake.source = reader.intake.source := by
  induction moves generalizing reader with
  | nil => rfl
  | cons move others ih =>
      have rest : ((reader.move move).moveAll others).intake.source =
          (reader.move move).intake.source :=
        ih (fun member => silent (List.mem_cons_of_mem _ member))
      apply rest.trans
      cases move with
      | next => exact absurd List.mem_cons_self silent
      | backup count => exact backup_source reader count
      | cut => rfl

/-! ### The reads of a call -/

structure NextReads (reader : Reader) (count : Nat) : Prop where
  source_eq : reader.next.2.intake.source =
    reader.intake.source.afterReads reader.intake.sizing.chunk count
  /-- None if four bytes are ahead, and else no more than are missing from four. -/
  count_le : count ≤ Utf8.maxWidth - reader.intake.window.ahead.length
  truncated : ∀ made, 0 < made → made < count → Utf8.Truncated
    (reader.intake.window.ahead ++
      reader.intake.source.handedOver reader.intake.sizing.chunk made)
  /-- Only the last read can bring nothing; so a source that is not ready is not asked again. -/
  brought : ∀ outcome ∈
    (reader.intake.source.outcomes reader.intake.sizing.chunk count).dropLast,
    outcome.bytes ≠ [] ∧ outcome.isTransient = false
  /-- It is not the bound on the rounds that stops them. -/
  unbounded : ∀ bound, Utf8.maxWidth - reader.intake.window.ahead.length ≤ bound →
    reader.intake.fillWithin bound = reader.intake.fill

end Reader

theorem Intake.Laid.brought {intake : Intake} (laid : intake.Laid) {count : Nat}
    (due : intake.Due count) {outcome : Outcome}
    (member : outcome ∈ (intake.source.outcomes intake.sizing.chunk count).dropLast) :
    outcome.bytes ≠ [] := by
  cases count with
  | zero => cases member
  | succ count =>
      rw [Source.outcomes_succ, List.dropLast_concat] at member
      obtain ⟨made, less, rfl⟩ := Source.mem_outcomes member
      have fed := laid.rounds made
      have came := due.came made (Nat.succ_lt_succ less)
      have size : (intake.rounds made).round.1 =
          ((intake.rounds made).source.read (intake.rounds made).sizing.chunk).1.size := rfl
      rw [size, fed.source_eq, fed.sizing_eq, Outcome.size_eq] at came
      exact List.ne_nil_of_length_pos (Nat.pos_of_ne_zero came)

namespace Reader

theorem Laid.nextReads {reader : Reader} (laid : reader.Laid) :
    ∃ count, NextReads reader count := by
  have unread := laid.intake.ordered.length_ahead
  obtain ⟨count, within, same, due⟩ :=
    Intake.fillWithin_due (Utf8.maxWidth - reader.intake.window.unread) reader.intake
  have filled : reader.intake.fill = reader.intake.rounds count := same
  refine ⟨count, ?_, ?_, ?_, ?_, ?_⟩
  · have source : reader.next.2.intake.source = _ :=
      congrArg Intake.source (reader.move_intake .next).2
    rw [source]
    change reader.intake.fill.source = _
    rw [filled, (laid.intake.rounds count).source_eq]
  · rw [unread]
    exact within
  · intro made positive less
    obtain ⟨others, rfl⟩ := Nat.exists_eq_succ_of_ne_zero (Nat.ne_of_gt positive)
    have left := due.truncated others less
    rw [Intake.isTruncated_lookahead, (laid.intake.rounds _).ahead_eq] at left
    exact Utf8.truncated_of_isTruncated left
  · intro outcome member
    have some := laid.intake.brought due member
    refine ⟨some, ?_⟩
    rw [← Bool.not_eq_true]
    exact fun transient => some (Outcome.bytes_of_transient transient)
  · intro bound enough
    rw [unread] at enough
    exact laid.intake.fill_eq_fillWithin (by omega)

end Reader

def Command.asks : Command → Bool
  | .backup _ => false
  | .ignore => false
  | .emit => false
  | .error => false
  | _ => true

structure Disciplined (source : Source) (chunk : Nat) (reader : Reader) : Prop where
  recorded : ∃ count, reader.intake.Recorded source chunk count
  next : ∃ count, reader.NextReads count
  sticky : ∀ error, reader.error? = some error → ∀ moves,
    (reader.moveAll moves).error? = some error ∧
      (reader.moveAll moves).intake.source = reader.intake.source
  silent : ∀ moves, .next ∉ moves →
    (reader.moveAll moves).intake.source = reader.intake.source
  offline : ∀ command, command.asks = false →
    (reader.perform command).2.intake.source = reader.intake.source

/-- After any moves the reader keeps to the discipline, and a run of commands is the run of the moves
it makes, wherever it begins. -/
theorem reads_are_disciplined (source : Source) (sizing : Sizing) :
    let fresh := Reader.start source sizing
    (∀ moves, Disciplined source sizing.clamp.chunk (fresh.moveAll moves)) ∧
    ∀ (reader : Reader) commands,
      reader.moveAll (reader.movesByAll commands) = (reader.performAll commands).2 := by
  intro fresh
  constructor
  · intro moves
    have laid := (Reader.moveAll_reaches fresh moves).laid (Reader.laid_start source sizing)
    refine ⟨Reader.recorded_moveAll source sizing moves, laid.nextReads, ?_, ?_, ?_⟩
    · intro error recorded more
      have ended : (fresh.moveAll moves).intake.hasEnded = true :=
        Option.isSome_iff_exists.mpr ⟨error, recorded⟩
      obtain ⟨condition, source⟩ :=
        Reader.moveAll_of_ended (Intake.not_live_of_ended ended) more
      exact ⟨(congrArg Condition.error? condition).trans recorded, source⟩
    · intro more silent
      exact Reader.moveAll_of_no_next silent
    · intro command offline
      cases command with
      | backup count => exact Reader.backup_source _ count
      | ignore => rfl
      | emit => rfl
      | error => rfl
      | _ => cases offline
  · intro reader commands
    exact (Reader.performAll_leads reader commands).moveAll_eq

/-- A rune comes in three pieces with a stall after the first, and then the connection is lost: two
reads for each of the first two calls, one for the third, and none from there on. -/
theorem reads_are_disciplined_lost_connection :
    let source := Source.ofEvents [.data [0xE2], .failure ⟨.wouldBlock, none⟩, .data [0x82],
      .data [0xAC], .failure ⟨.connectionReset, none⟩, .data [0x61]]
    let fresh := Reader.start source ⟨4, 4⟩
    let lost := fresh.moveAll [.next, .next, .next]
    (fresh.moveAll [.next]).intake.source.reads = 2 ∧ (fresh.moveAll [.next]).error? = none ∧
      (fresh.moveAll [.next, .next]).intake.source.reads = 4 ∧
      lost.intake.source.reads = 5 ∧ lost.error? = some (.source ⟨.connectionReset, none⟩) ∧
      (lost.moveAll [.next, .backup 1, .next]).intake.source.reads = 5 ∧
      Disciplined source 4 lost := by
  intro source fresh lost
  have stalled : (fresh.moveAll [.next]).intake.source.reads = 2 := by decide +kernel
  have unrecorded : (fresh.moveAll [.next]).error? = none := by decide +kernel
  have complete : (fresh.moveAll [.next, .next]).intake.source.reads = 4 := by decide +kernel
  have reads : lost.intake.source.reads = 5 := by decide +kernel
  have error : lost.error? = some (.source ⟨.connectionReset, none⟩) := by decide +kernel
  obtain ⟨disciplined, _⟩ := reads_are_disciplined source ⟨4, 4⟩
  have kept : Disciplined source 4 lost := disciplined [.next, .next, .next]
  have later := (kept.sticky _ error [.next, .backup 1, .next]).2
  exact ⟨stalled, unrecorded, complete, reads, error,
    (congrArg Source.reads later).trans reads, kept⟩

end RuneScan
