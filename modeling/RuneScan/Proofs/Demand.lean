import RuneScan.Proofs.Intake.Rounds
import RuneScan.Proofs.Reader.Layout
import RuneScan.Proofs.Reader.Operations
import RuneScan.Proofs.Utf8.Scalar

/-!
When `next` reads. A rune at the front that no further byte can change is yielded without a read
exactly where as many bytes are unread as a scalar value can have, or an error is on record. Else
`next` reads once before it yields the rune, though it is all there, and never a second time.
-/

namespace RuneScan

namespace Intake

/-- Where the front is settled a fill makes one round at most, whatever it brings. -/
theorem Laid.fill_of_wants {intake : Intake} (laid : intake.Laid) (wants : intake.wants = true)
    (nonempty : intake.window.ahead ≠ [])
    (settled : Utf8.isTruncated intake.window.ahead = false) : intake.fill = intake.round.2 := by
  obtain ⟨rounds, missing⟩ := Nat.exists_eq_add_of_lt (wants_iff.mp wants).2
  have still : Utf8.isTruncated intake.round.2.window.lookahead = false := by
    rw [isTruncated_lookahead, laid.round.ahead_eq]
    exact Utf8.isTruncated_append nonempty settled _
  have bound : Utf8.maxWidth - intake.window.unread = rounds + 1 := by omega
  unfold Intake.fill
  rw [bound]
  simp only [fillWithin, wants, still, if_true, Bool.and_false, Bool.false_eq_true, if_false]

theorem Laid.fill_reads {intake : Intake} (laid : intake.Laid)
    (nonempty : intake.window.ahead ≠ [])
    (settled : intake.hasEnded = true ∨ Utf8.isTruncated intake.window.ahead = false) :
    intake.fill.source.reads = intake.source.reads + if intake.wants then 1 else 0 := by
  cases wants : intake.wants with
  | false =>
      rw [fill_of_content wants]
      rfl
  | true =>
      rcases settled with ended | settled
      · rw [wants_of_ended ended] at wants
        cases wants
      · rw [laid.fill_of_wants wants nonempty settled, laid.round.reads_eq]
        rfl

/-- A fill adds to the unread bytes only while more may come. -/
theorem Laid.fill_later {intake : Intake} (laid : intake.Laid) :
    ∃ more, intake.fill.window.pending = intake.window.pending ∧
      intake.fill.window.ahead = intake.window.ahead ++ more ∧
      (intake.hasEnded = true → intake.fill.hasEnded = true ∧ more = []) := by
  cases ended : intake.hasEnded with
  | true =>
      rw [fill_of_content (wants_of_ended ended)]
      exact ⟨[], rfl, (List.append_nil _).symm, fun _ => ⟨ended, rfl⟩⟩
  | false =>
      obtain ⟨count, fed⟩ := laid.fill
      exact ⟨_, fed.pending_eq, fed.ahead_eq, fun finished => by cases finished⟩

end Intake

theorem Reader.Laid.next_settled {reader : Reader} (laid : reader.Laid)
    (nonempty : reader.intake.window.ahead ≠ [])
    (settled : reader.intake.hasEnded = true ∨
      Utf8.isTruncated reader.intake.window.ahead = false) :
    reader.next = (some (Utf8.front reader.intake.window.ahead).char,
      Reader.pass { reader with intake := reader.intake.fill }
        (Utf8.front reader.intake.window.ahead)) := by
  obtain ⟨more, _, ahead, closed⟩ := laid.intake.fill_later
  obtain ⟨same, still⟩ := Utf8.settled_append nonempty settled closed
  rw [← ahead] at same still
  rcases next_decoded reader with ⟨_, empty | ⟨unfinished, truncated⟩⟩ | ⟨taken, _, _⟩
  · rw [ahead] at empty
    exact absurd (List.append_eq_nil_iff.mp empty).1 nonempty
  · rw [unfinished, truncated] at still
    rcases still with finished | settled
    · cases finished
    · cases settled
  · rw [taken, same]

/-- What `next` asks of the source where the bytes ahead begin with a rune that no further byte can
change. -/
structure NextDemand (reader : Reader) (rune : Rune) : Prop where
  /-- The rune is yielded, unless the read that comes before it breaks the contract. -/
  yields : reader.next.2.violation? = none → reader.next.1 = some rune.char
  reads_iff : reader.next.2.intake.source.reads = reader.intake.source.reads + 1 ↔
    reader.error? = none ∧ reader.intake.window.ahead.length < Utf8.maxWidth
  spares_iff : reader.next.2.intake.source.reads = reader.intake.source.reads ↔
    reader.error? ≠ none ∨ Utf8.maxWidth ≤ reader.intake.window.ahead.length
  /-- Without a read nothing but the cursor moves. -/
  moves : reader.next.2.intake.source.reads = reader.intake.source.reads →
    reader.next = (some rune.char, reader.pass rune)
  breaks_iff : reader.next.2.violation? ≠ none ↔
    (reader.error? = none ∧ reader.intake.window.ahead.length < Utf8.maxWidth) ∧
      reader.intake.sizing.chunk < (reader.intake.source.read reader.intake.sizing.chunk).1.claimed
        reader.intake.sizing.chunk

theorem Intake.isLive_iff {intake : Intake} (unbroken : intake.condition.violation? = none) :
    intake.condition.isLive = true ↔ intake.condition.error? = none := by
  cases same : intake.condition with
  | live => exact iff_of_true rfl rfl
  | ended error => exact iff_of_false Bool.false_ne_true (Option.some_ne_none error)
  | violated claimed requested =>
      rw [same] at unbroken
      cases unbroken

private theorem Reader.Laid.next_demand {reader : Reader} (laid : reader.Laid)
    (unbroken : reader.violation? = none) (nonempty : reader.intake.window.ahead ≠ [])
    (settled : reader.intake.hasEnded = true ∨
      Utf8.isTruncated reader.intake.window.ahead = false) :
    NextDemand reader (Utf8.front reader.intake.window.ahead) := by
  have next := laid.next_settled nonempty settled
  have reads : reader.next.2.intake.source.reads =
      reader.intake.source.reads + if reader.intake.wants then 1 else 0 := by
    rw [next]
    exact laid.intake.fill_reads nonempty settled
  have wants : reader.intake.wants = true ↔
      reader.error? = none ∧ reader.intake.window.ahead.length < Utf8.maxWidth := by
    rw [Intake.wants_iff, Intake.isLive_iff unbroken, laid.intake.ordered.length_ahead]
    rfl
  have content : reader.intake.wants = false ↔
      reader.error? ≠ none ∨ Utf8.maxWidth ≤ reader.intake.window.ahead.length := by
    rw [← Bool.not_eq_true, wants, Decidable.not_and_iff_not_or_not, Nat.not_lt]
  have broken : reader.next.2.violation? = reader.intake.fill.condition.violation? := by
    rw [next]
    rfl
  constructor
  · intro _
    rw [next]
  · rw [reads, ← wants]
    cases reader.intake.wants with
    | true => exact iff_of_true rfl rfl
    | false => exact iff_of_false (Nat.ne_of_lt (Nat.lt_succ_self _)) Bool.false_ne_true
  · rw [reads, ← content]
    cases reader.intake.wants with
    | true => exact iff_of_false (Nat.ne_of_gt (Nat.lt_succ_self _)) Bool.true_eq_false.mp
    | false => exact iff_of_true rfl rfl
  · intro spared
    rw [reads] at spared
    cases due : reader.intake.wants with
    | true =>
        rw [due, if_pos rfl] at spared
        omega
    | false => rw [next, Intake.fill_of_content due]
  · rw [broken, ← wants, ← Option.isSome_iff_ne_none]
    cases due : reader.intake.wants with
    | true =>
        have whole := settled.resolve_left fun ended => by
          rw [Intake.wants_of_ended ended] at due
          cases due
        rw [laid.intake.fill_of_wants due nonempty whole,
          reader.intake.round_breaks_iff (Intake.wants_iff.mp due).1, and_iff_right rfl]
    | false =>
        rw [Intake.fill_of_content due]
        refine iff_of_false ?_ fun both => Bool.false_ne_true both.1
        rw [Reader.violation?] at unbroken
        rw [unbroken]
        exact Bool.false_ne_true

/-- Whatever the source and the commands so far: where the bytes ahead begin with a rune that no
further byte can change, `next` reads once if fewer than four bytes are ahead and no error is on
record, and else not at all. -/
theorem next_reads_iff_few_unread (source : Source) (sizing : Sizing) (commands : List Command) :
    let reader := ((Reader.start source sizing).performAll commands).2
    reader.violation? = none → ∀ rune others,
      Utf8.Decodes reader.intake.window.ahead (rune :: others) →
      reader.error? ≠ none ∨ ¬Utf8.Truncated reader.intake.window.ahead →
      NextDemand reader rune := by
  intro reader unbroken rune others decodes settled
  obtain ⟨nonempty, rfl⟩ := decodes.front_eq
  have reaches := Reader.performAll_reaches (Reader.start source sizing) commands
  have laid := reaches.laid (Reader.laid_start source sizing)
  refine laid.next_demand unbroken nonempty (settled.imp ?_ ?_)
  · exact Option.isSome_iff_ne_none.mpr
  · intro whole
    rw [← Utf8.isTruncated_iff] at whole
    exact Bool.eq_false_iff.mpr whole

/-- A chunk of four bytes and two bytes behind it: with three bytes ahead the rest is read, and with
four nothing is. -/
theorem next_reads_iff_few_unread_six_bytes :
    let source := Source.ofBytes [0x61, 0x62, 0x63, 0x64, 0x65, 0x66]
    let three := ((Reader.start source ⟨4, 8⟩).performAll [.next]).2
    let four := ((Reader.start source ⟨4, 8⟩).performAll [.next, .next]).2
    three.violation? = none ∧ three.intake.window.ahead = [0x62, 0x63, 0x64] ∧
      three.intake.source.reads = 1 ∧ three.next.2.intake.source.reads = 2 ∧
      NextDemand three ⟨'b', 1⟩ ∧
    four.violation? = none ∧ four.intake.window.ahead = [0x63, 0x64, 0x65, 0x66] ∧
      four.intake.source.reads = 2 ∧ four.next.2.intake.source.reads = 2 ∧
      NextDemand four ⟨'c', 1⟩ := by
  intro source three four
  have unbroken : three.violation? = none ∧ four.violation? = none := by decide +kernel
  have ahead : three.intake.window.ahead = [0x62, 0x63, 0x64] ∧
      four.intake.window.ahead = [0x63, 0x64, 0x65, 0x66] := by decide +kernel
  have read : three.intake.source.reads = 1 ∧ three.next.2.intake.source.reads = 2 := by
    decide +kernel
  have spared : four.intake.source.reads = 2 ∧ four.next.2.intake.source.reads = 2 := by
    decide +kernel
  exact ⟨unbroken.1, ahead.1, read.1, read.2,
    next_reads_iff_few_unread source ⟨4, 8⟩ [.next] (by decide +kernel)
      ⟨'b', 1⟩ [⟨'c', 1⟩, ⟨'d', 1⟩] (Utf8.decodes_of_runes (by decide +kernel))
      (.inr (Utf8.not_truncated_of_settled (by decide +kernel))),
    unbroken.2, ahead.2, spared.1, spared.2,
    next_reads_iff_few_unread source ⟨4, 8⟩ [.next, .next] (by decide +kernel)
      ⟨'c', 1⟩ [⟨'d', 1⟩, ⟨'e', 1⟩, ⟨'f', 1⟩] (Utf8.decodes_of_runes (by decide +kernel))
      (.inr (Utf8.not_truncated_of_settled (by decide +kernel)))⟩

/-- That the bytes ahead begin with a whole rune does not spare the source. The first of two pieces
holds two runes and one read brings both, but the source is read once more before the second rune is
yielded. -/
theorem whole_rune_ahead_spares_no_read :
    ¬∀ (source : Source) (sizing : Sizing) (commands : List Command),
      let reader := ((Reader.start source sizing).performAll commands).2
      reader.violation? = none → ∀ rune others,
        Utf8.Decodes reader.intake.window.ahead (rune :: others) →
        ¬Utf8.Truncated reader.intake.window.ahead →
        reader.next.1 = some rune.char ∧
          reader.next.2.intake.source.reads = reader.intake.source.reads := by
  intro spares
  have spared := spares (.ofEvents [.data [0x61, 0x62], .data [0x63, 0x64]]) ⟨4, 8⟩ [.next]
    (by decide +kernel) ⟨'b', 1⟩ [] (Utf8.decodes_of_runes (by decide +kernel))
    (Utf8.not_truncated_of_settled (by decide +kernel))
  exact absurd spared.2 (by decide +kernel)

end RuneScan
