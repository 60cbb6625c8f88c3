import RuneScan.Proofs.ReadDiscipline
import RuneScan.Proofs.StreamLaw

/-!
What lies between two states of a reader: what the reads made in between came to, and the runes of the
stream that the cursor has moved over. A call met a stall exactly when it left the source fewer stalls
than there were.
-/

namespace RuneScan

open Utf8 (runes widths)

namespace Source

theorem read_stalls (source : Source) (room : Nat) : source.stalls =
    (source.read room).2.stalls + if (source.read room).1.isTransient then 1 else 0 := by
  rcases source with ⟨events, reads⟩
  cases events with
  | nil => rfl
  | cons event rest =>
      cases event with
      | overclaim excess => rfl
      | failure fault => exact List.countP_cons
      | data bytes =>
          rw [read_data]
          by_cases whole : bytes.length ≤ room
          · simp [stalls, whole, Event.isStall, Outcome.isTransient]
          · simp [stalls, whole, Event.isStall, Outcome.isTransient]

/-- The stalls that are used up by some reads are those that the reads came to. -/
theorem stalls_afterReads (source : Source) (room count : Nat) : source.stalls =
    (source.afterReads room count).stalls +
      (source.outcomes room count).countP Outcome.isTransient := by
  induction count generalizing source with
  | zero => rfl
  | succ count ih =>
      rw [afterReads, outcomes, List.countP_cons, ← Nat.add_assoc, ← ih]
      exact read_stalls source room

end Source

namespace Reader

/-! ### The reads of a call -/

def outcomesSince (before after : Reader) : List Outcome :=
  before.intake.source.outcomes before.intake.sizing.chunk
    (after.intake.source.reads - before.intake.source.reads)

def MetStall (before after : Reader) : Prop :=
  ∃ outcome ∈ before.outcomesSince after, outcome.isTransient = true

instance (before after : Reader) : Decidable (MetStall before after) :=
  inferInstanceAs
    (Decidable (∃ outcome ∈ before.outcomesSince after, outcome.isTransient = true))

theorem Reaches.stalls_eq {before after : Reader} {texts : List (List UInt8)}
    (reaches : Reaches before texts after) (laid : before.Laid) : before.intake.source.stalls =
      after.intake.source.stalls +
        (before.outcomesSince after).countP Outcome.isTransient := by
  have counted := before.intake.source.stalls_afterReads before.intake.sizing.chunk
    (after.intake.source.reads - before.intake.source.reads)
  rw [← (reaches.took laid).1] at counted
  exact counted

theorem Reaches.metStall_iff {before after : Reader} {texts : List (List UInt8)}
    (reaches : Reaches before texts after) (laid : before.Laid) :
    MetStall before after ↔ after.intake.source.stalls < before.intake.source.stalls := by
  have counted := reaches.stalls_eq laid
  have some : 0 < (before.outcomesSince after).countP Outcome.isTransient ↔
      MetStall before after := List.countP_pos_iff
  rw [← some]
  omega

theorem Reaches.outcomesSince_append {first second third : Reader}
    {texts more : List (List UInt8)} (earlier : Reaches first texts second)
    (later : Reaches second more third) (sound : first.Sound) (laid : first.Laid) :
    first.outcomesSince third = first.outcomesSince second ++ second.outcomesSince third := by
  have sizing := (earlier.later sound).sizing_eq
  have before := (earlier.took laid).1
  have after := (later.took (earlier.laid laid)).1
  have grown := congrArg Source.reads before
  have more := congrArg Source.reads after
  rw [Source.reads_afterReads] at grown more
  have total : third.intake.source.reads - first.intake.source.reads =
      (second.intake.source.reads - first.intake.source.reads) +
        (third.intake.source.reads - second.intake.source.reads) := by omega
  unfold outcomesSince
  rw [total, Source.outcomes_add, ← before, sizing]

/-- Why no rune could be had at the end of a call: all input has been consumed, or the last read of the
call found the source not ready. -/
inductive RunsDry (before after : Reader) : Prop where
  | ended (error : ReadError) : after.error? = some error → after.coming = [] →
      RunsDry before after
  | stalled (outcome : Outcome) : after.error? = none →
      (before.outcomesSince after).getLast? = some outcome → outcome.isTransient = true →
      RunsDry before after

theorem Reaches.runsDry {first second after : Reader} {texts more : List (List UInt8)}
    (earlier : Reaches first texts second) (later : Reaches second more after)
    (sound : first.Sound) (laid : first.Laid) (dry : RunsDry second after) :
    RunsDry first after := by
  cases dry with
  | ended error recorded nothing => exact .ended error recorded nothing
  | stalled outcome live last transient =>
      apply RunsDry.stalled outcome live _ transient
      rw [earlier.outcomesSince_append later sound laid, List.getLast?_append, last,
        Option.some_or]

theorem Sound.next_missed {reader after : Reader} (sound : reader.Sound) (laid : reader.Laid)
    (missed : reader.next = (none, after)) : RunsDry reader after := by
  have finish := sound.next.2
  rw [missed] at finish
  cases finish with
  | ended _ _ finished nothing =>
      obtain ⟨error, recorded⟩ := Option.isSome_iff_exists.mp finished
      exact .ended error recorded nothing
  | stalled _ _ live stalled _ =>
      have reaches := (leads_of_next missed).reaches
      obtain ⟨outcome, member, transient⟩ := (reaches.metStall_iff laid).mpr stalled.1
      obtain ⟨count, reads⟩ := laid.nextReads
      have source_eq := reads.source_eq
      rw [missed] at source_eq
      have made : reader.outcomesSince after =
          reader.intake.source.outcomes reader.intake.sizing.chunk count := by
        unfold outcomesSince
        rw [source_eq, Source.reads_afterReads, Nat.add_sub_cancel_left]
      apply RunsDry.stalled outcome (error?_of_live live) _ transient
      rw [made] at member ⊢
      -- All reads before the last one brought something, so the stall is the last.
      have nonempty := List.ne_nil_of_mem member
      rw [← List.dropLast_concat_getLast nonempty] at member
      rcases List.mem_append.mp member with earlier | last
      · have ready := (reads.brought outcome earlier).2
        rw [ready] at transient
        cases transient
      · rw [List.mem_singleton.mp last]
        exact List.getLast?_eq_some_getLast nonempty

/-! ### The runes of a call -/

/-- A reader that has cut off the text `cut` of the stream has the runes `rest` of it still to come:
the stream decodes to them behind that text and the pending bytes. -/
def Awaits (source : Source) (cut : List UInt8) (reader : Reader) (rest : List Rune) : Prop :=
  ∃ passed, Utf8.Decodes source.stream (passed ++ rest) ∧
    widths passed = (cut ++ reader.pending).length

structure Consumes (source : Source) (cut : List UInt8) (rest : List Rune) (count : Nat)
    (before after : Reader) : Prop where
  count_le : count ≤ rest.length
  awaits : Awaits source cut after (rest.drop count)
  pending_eq : after.pending = before.pending ++
    (source.stream.drop (cut ++ before.pending).length).take (widths (rest.take count))
  position_eq : after.position = before.position.past (rest.take count)
  tokenStart_eq : after.tokenStart = before.tokenStart
  history_length : after.history.length = before.history.length + count

variable {source : Source} {sizing : Sizing} {texts : List (List UInt8)} {before after : Reader}
  {passed : List Rune}

theorem Reaches.awaits (reaches : Reaches (start source sizing) texts before)
    (honest : source.Honest) : Awaits source texts.flatten before (runes before.coming) := by
  obtain ⟨parts, offset, _⟩ := reaches.runes_stream honest
  refine ⟨runes texts.flatten ++ runes before.pending, ?_, offset⟩
  rw [← parts]
  exact Utf8.decodes_runes _

theorem Passes.take_runes_coming (passes : Passes before passed after) (prior : before.Sound)
    (later : after.Sound) : (runes before.coming).take passed.length = passed ∧
      (runes before.coming).drop passed.length = runes after.coming := by
  rw [passes.runes_coming prior later]
  exact ⟨List.take_left, List.drop_left⟩

theorem Passes.position_eq (passes : Passes before passed after) (prior : before.Sound)
    (later : after.Sound) : after.position = before.position.past passed := by
  rw [later.position_eq, prior.position_eq, passes.tokenStart_eq, passes.runes_eq,
    Position.past_append]

theorem Passes.history_length (passes : Passes before passed after) (prior : before.Sound)
    (later : after.Sound) : after.history.length = before.history.length + passed.length := by
  rw [later.history_length, prior.history_length, passes.runes_eq, List.length_append]

/-- A reader that has passed some runes has consumed the first of those that were to come. -/
theorem Reaches.consumes (reaches : Reaches (start source sizing) texts before)
    (honest : source.Honest) (passes : Passes before passed after) (later : after.Sound) :
    Consumes source texts.flatten (runes before.coming) passed.length before after := by
  have prior := (reaches.later (sound_start honest sizing)).sound
  obtain ⟨taken, left⟩ := passes.take_runes_coming prior later
  obtain ⟨parts, offset, stream⟩ := reaches.runes_stream honest
  rw [passes.runes_coming prior later, ← List.append_assoc] at parts
  constructor
  · rw [passes.runes_coming prior later, List.length_append]
    exact Nat.le_add_right _ _
  · refine ⟨runes texts.flatten ++ runes before.pending ++ passed, ?_, ?_⟩
    · rw [left, ← parts]
      exact Utf8.decodes_runes _
    · rw [Utf8.widths_append, offset, List.length_append, List.length_append,
        passes.length_pending, Nat.add_assoc]
  · rw [taken, ← stream, List.drop_left, passes.pending_eq]
  · rw [taken]
    exact passes.position_eq prior later
  · exact passes.tokenStart_eq
  · exact passes.history_length prior later

end Reader
end RuneScan
