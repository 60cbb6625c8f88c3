import RuneScan.Proofs.Reader.Operations
import RuneScan.Proofs.Utf8.Scalar

/-!
The stream law of `next`. The text cut off, the pending token and the bytes to come are always the
stream of the source, cut at the ends of its runes. So each call of `next` yields the next rune of
the stream as a whole decodes, however its bytes arrive, or changes nothing in sight; and a client
that asks again where the source was not ready receives the runes of the stream.
-/

namespace RuneScan

open Utf8 (Seam runes widths)

namespace Reader

/-- What a run does to the stream: the texts it cut off and the bytes that are left are those there
were, and no rune crosses the last cut. -/
theorem Reaches.whole {before after : Reader} {texts : List (List UInt8)}
    (reaches : Reaches before texts after) (sound : before.Sound) :
    texts.flatten ++ (after.pending ++ after.coming) = before.pending ++ before.coming ∧
      Seam texts.flatten (after.pending ++ after.coming) := by
  have kept : after.Sound ∧
      texts.flatten ++ (after.pending ++ after.coming) = before.pending ++ before.coming ∧
      Seam texts.flatten (after.pending ++ after.coming) := by
    apply reaches.induction (motive := fun reader texts => reader.Sound ∧
      texts.flatten ++ (reader.pending ++ reader.coming) = before.pending ++ before.coming ∧
      Seam texts.flatten (reader.pending ++ reader.coming))
    · exact ⟨sound, rfl, Utf8.seam_nil_left _⟩
    · intro reader texts ⟨held, whole, seam⟩
      rcases held.next with ⟨later, finish⟩
      obtain ⟨passed, passes⟩ := finish.passes
      rw [passes.whole_eq]
      exact ⟨later.sound, whole, seam⟩
    · intro reader texts count ⟨held, whole, seam⟩
      obtain ⟨later, passes⟩ := held.backup count
      rw [← passes.whole_eq]
      exact ⟨later.sound, whole, seam⟩
    · intro reader texts ⟨held, whole, seam⟩
      rw [pending_ignore, coming_ignore, List.nil_append, List.flatten_append,
        List.flatten_singleton]
      refine ⟨held.ignore.sound, ?_, seam.append held.seam⟩
      rw [List.append_assoc]
      exact whole
  exact kept.2

theorem Reaches.runes_stream {source : Source} {sizing : Sizing} {texts : List (List UInt8)}
    {reader : Reader} (reaches : Reaches (start source sizing) texts reader)
    (honest : source.Honest) :
    runes source.stream =
        (runes texts.flatten ++ runes reader.pending) ++ runes reader.coming ∧
      widths (runes texts.flatten ++ runes reader.pending) =
        (texts.flatten ++ reader.pending).length ∧
      texts.flatten ++ reader.pending ++ reader.coming = source.stream := by
  have sound := sound_start honest sizing
  obtain ⟨whole, outer⟩ := reaches.whole sound
  have inner := (reaches.later sound).sound.seam
  have stream : texts.flatten ++ (reader.pending ++ reader.coming) = source.stream := whole
  refine ⟨?_, ?_, ?_⟩
  · unfold Seam at outer inner
    rw [← stream, outer, inner, List.append_assoc]
  · rw [Utf8.widths_append, Utf8.widths_runes, Utf8.widths_runes, List.length_append]
  · rw [List.append_assoc]
    exact stream

theorem isExhausted_iff {reader : Reader} {error : ReadError}
    (recorded : reader.error? = some error) (empty : reader.intake.window.ahead = []) :
    reader.isExhausted = true ↔ error = .endOfStream := by
  unfold isExhausted
  rw [recorded, empty, List.isEmpty_nil, Bool.and_true, beq_iff_eq, Option.some.injEq]

theorem journalSince_of_stalled {before after : Reader}
    (stalled : Intake.Stalled before.intake after.intake) :
    ∃ kind, kind.isTransient = true ∧
      (after.journalSince before.intake.journal.length).getLast? =
        some (.sourceNotReady kind) := by
  rcases stalled with ⟨_, kind, events, transient, journal⟩
  refine ⟨kind, transient, ?_⟩
  have entries : after.intake.journal.length - before.intake.journal.length =
      events.length + 1 := by
    rw [journal, List.length_cons, List.length_append]
    omega
  rw [journalSince, entries, journal, List.take_succ_cons, List.getLast?_reverse]
  rfl

/-! ### A client that asks again -/

/-- Calls `next` again and again, also where no rune could be had, until an error is recorded or the
calls are used up. -/
def retry : Nat → Reader → List Char × Reader
  | 0, reader => ([], reader)
  | calls + 1, reader =>
      match reader.next with
      | (some rune, after) =>
          let (others, last) := retry calls after
          (rune :: others, last)
      | (none, after) => if after.error?.isSome then ([], after) else retry calls after

/-- Each call takes a rune or uses up a stall of the source, so enough calls come to the end. -/
theorem Sound.retry_all {reader : Reader} (sound : reader.Sound) {calls : Nat}
    (enough : (runes reader.coming).length + reader.intake.source.stalls < calls) :
    (reader.retry calls).1 = (runes reader.coming).map Rune.char ∧
      (reader.retry calls).2.error?.isSome = true := by
  induction calls generalizing reader with
  | zero => exact absurd enough (Nat.not_lt_zero _)
  | succ calls ih =>
      rcases sound.next with ⟨later, finish⟩
      -- A rune shortens what is to come and a stall uses up one of the source's: either way fewer
      -- calls are needed from there on.
      unfold retry
      generalize reader.next = result at later finish ⊢
      rcases result with ⟨answer, after⟩
      simp only at later finish ⊢
      have fewer := later.stalls_le
      cases finish with
      | read rune after passes front =>
          rw [front, List.length_cons] at enough
          obtain ⟨others, finished⟩ := ih later.sound (by omega)
          refine ⟨?_, finished⟩
          simp only [others, front, List.map_cons]
      | ended after passes finished nothing =>
          have coming := (passes.nil_eq sound later.sound).2.1
          have error : after.error?.isSome = true := finished
          simp only [← coming, nothing, Utf8.runes_nil, error, if_true]
          exact ⟨rfl, trivial⟩
      | stalled after passes live stalled front =>
          have coming := (passes.nil_eq sound later.sound).2.1
          have less := stalled.1
          rw [← coming] at enough ⊢
          simp only [error?_of_live live, Option.isSome_none, Bool.false_eq_true, if_false]
          exact ih later.sound (by omega)

end Reader

/-! ### The law -/

/-- What `next` does to a reader that has cut off the text `cut` of a stream with the runes
`decoded`. -/
structure NextLaw (source : Source) (decoded : List Rune) (cut : List UInt8) (reader : Reader) :
    Prop where
  /-- A rune is yielded as the whole stream decodes where the cursor stands, and the cursor moves
  past its bytes. -/
  yields : ∀ char after, reader.next = (some char, after) →
    ∃ passed rune others, decoded = passed ++ rune :: others ∧
      widths passed = (cut ++ reader.pending).length ∧ rune.char = char ∧
      after.tokenStart = reader.tokenStart ∧
      after.pending = reader.pending ++
        (source.stream.drop (cut ++ reader.pending).length).take rune.width
  /-- Where no rune is yielded nothing has changed in sight, and the stream is at its end or the
  source was not ready. -/
  misses : ∀ after, reader.next = (none, after) →
    after.position = reader.position ∧ after.tokenStart = reader.tokenStart ∧
    after.pending = reader.pending ∧ after.history = reader.history ∧
    ((∃ error, after.error? = some error ∧ cut ++ reader.pending = source.stream ∧
        (after.isExhausted = true ↔ error = .endOfStream)) ∨
      (after.error? = none ∧
        (∃ kind, kind.isTransient = true ∧
          (after.journalSince reader.intake.journal.length).getLast? =
            some (.sourceNotReady kind)) ∧
        (after.intake.window.ahead = [] ∨
          Utf8.isTruncated after.intake.window.ahead = true)))
  /-- A client that asks again receives all runes from the cursor on, and then the error. -/
  retries : ∀ calls, decoded.length + source.stalls < calls →
    ∃ passed others, decoded = passed ++ others ∧
      widths passed = (cut ++ reader.pending).length ∧
      (reader.retry calls).1 = others.map Rune.char ∧
      (reader.retry calls).2.error?.isSome = true

theorem next_follows_stream {source : Source} (honest : source.Honest) {decoded : List Rune}
    (decodes : Utf8.Decodes source.stream decoded) (sizing : Sizing) (commands : List Command) :
    NextLaw source decoded ((Reader.start source sizing).cutByAll commands).flatten
      ((Reader.start source sizing).performAll commands).2 := by
  have reaches := Reader.performAll_reaches (Reader.start source sizing) commands
  generalize (Reader.start source sizing).cutByAll commands = texts at reaches ⊢
  generalize ((Reader.start source sizing).performAll commands).2 = reader at reaches ⊢
  have later := reaches.later (Reader.sound_start honest sizing)
  have sound := later.sound
  obtain ⟨parts, offset, stream⟩ := reaches.runes_stream honest
  rw [← decodes.eq_runes] at parts
  rcases sound.next with ⟨after_later, finish⟩
  constructor
  · intro char after taken
    rw [taken] at finish
    cases finish with
    | read rune _ passes front =>
        rw [front] at parts
        refine ⟨_, rune, _, parts, offset, rfl, passes.tokenStart_eq, ?_⟩
        rw [passes.pending_eq, ← stream, List.drop_left, Utf8.widths_cons, Utf8.widths_nil,
          Nat.add_zero]
  · intro after missed
    rw [missed] at finish after_later
    cases finish with
    | ended _ passes finished nothing =>
        obtain ⟨pending, coming, history, position⟩ := passes.nil_eq sound after_later.sound
        refine ⟨position, passes.tokenStart_eq, pending, history, .inl ?_⟩
        have empty : after.intake.window.ahead = [] :=
          (Intake.coming_of_ended finished).symm.trans nothing
        obtain ⟨error, recorded⟩ := Option.isSome_iff_exists.mp finished
        refine ⟨error, recorded, ?_, Reader.isExhausted_iff recorded empty⟩
        rw [← stream, ← coming, nothing, List.append_nil]
    | stalled _ passes live stalled front =>
        obtain ⟨pending, coming, history, position⟩ := passes.nil_eq sound after_later.sound
        exact ⟨position, passes.tokenStart_eq, pending, history,
          .inr ⟨Reader.error?_of_live live, Reader.journalSince_of_stalled stalled, front⟩⟩
  · intro calls enough
    have fewer : reader.intake.source.stalls ≤ source.stalls := later.stalls_le
    have left := congrArg List.length parts
    rw [List.length_append] at left
    have fits : (runes reader.coming).length + reader.intake.source.stalls < calls := by omega
    obtain ⟨received, finished⟩ := sound.retry_all fits
    exact ⟨_, _, parts, offset, received, finished⟩

/-- A three-byte rune arrives in two pieces with a stall between them, and then the connection is
lost. -/
theorem next_follows_stream_split_rune :
    let source := Source.ofEvents [.data [0x61, 0xE2], .failure ⟨.wouldBlock, none⟩,
      .data [0x82, 0xAC], .failure ⟨.connectionReset, none⟩]
    let fresh := Reader.start source ⟨4, 4⟩
    let commands := [.next, .peek, .emit, .next, .backup 1]
    source.Honest ∧ Utf8.Decodes source.stream [⟨'a', 1⟩, ⟨'€', 3⟩] ∧
      NextLaw source [⟨'a', 1⟩, ⟨'€', 3⟩] (fresh.cutByAll commands).flatten
        (fresh.performAll commands).2 := by
  intro source fresh commands
  have honest : source.Honest := by decide
  have decodes : Utf8.Decodes source.stream [⟨'a', 1⟩, ⟨'€', 3⟩] :=
    .scalar 'a' _ _ (.scalar '€' [] _ .nil)
  exact ⟨honest, decodes, next_follows_stream honest decodes ⟨4, 4⟩ commands⟩

end RuneScan
