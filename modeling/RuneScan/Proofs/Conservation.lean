import RuneScan.Proofs.Reader.Layout
import RuneScan.Proofs.StreamLaw

/-!
Conservation of bytes. The texts cut off, the pending token and the unread bytes are, one after the
other, what the source has handed over so far. No byte is lost, doubled or moved past another by a
read, by making room or by going back.
-/

namespace RuneScan

/-- The bytes that a reader has taken from its source are all in one place each, when it has cut off
the text `cut`. -/
structure Conserved (source : Source) (chunk : Nat) (cut : List UInt8) (reader : Reader) :
    Prop where
  source_eq : reader.intake.source =
    source.afterReads chunk (reader.intake.source.reads - source.reads)
  bytes_eq : cut ++ reader.pending ++ reader.intake.window.ahead =
    source.handedOver chunk (reader.intake.source.reads - source.reads)
  /-- Once the stream has ended and all of it has been cut off, the texts make up the stream. -/
  drained : reader.error?.isSome = true → reader.pending = [] → reader.intake.window.ahead = [] →
    cut = source.stream

/-- After any run of commands the texts cut off, the pending token and the unread bytes make up what
the reads made so far have handed over. -/
theorem bytes_conserved {source : Source} (honest : source.Honest) (sizing : Sizing)
    (commands : List Command) :
    Conserved source sizing.clamp.chunk ((Reader.start source sizing).cutByAll commands).flatten
      ((Reader.start source sizing).performAll commands).2 := by
  have sound := Reader.sound_start honest sizing
  have reaches := Reader.performAll_reaches (Reader.start source sizing) commands
  generalize (Reader.start source sizing).cutByAll commands = texts at reaches ⊢
  generalize ((Reader.start source sizing).performAll commands).2 = reader at reaches ⊢
  obtain ⟨source_eq, conserved⟩ := reaches.took (Reader.laid_start source sizing)
  have later := (reaches.later sound).sound
  constructor
  · exact source_eq
  · rw [List.append_assoc, ← later.kept_eq]
    exact conserved
  · intro finished nothing empty
    have stream := (reaches.runes_stream honest).2.2
    have coming : reader.coming = [] := (Intake.coming_of_ended finished).trans empty
    rw [nothing, coming, List.append_nil, List.append_nil] at stream
    exact stream

/-- A window of eight cells slides and grows while tokens are cut and runes are given back. -/
theorem bytes_conserved_small_window :
    let source := Source.ofEvents [.data [0x61, 0x62, 0x63, 0x64, 0x65],
      .failure ⟨.interrupted, none⟩, .data [0xF0, 0x9F, 0x98], .data [0x80, 0x21]]
    let sizing : Sizing := ⟨4, 8⟩
    let fresh := Reader.start source sizing
    let commands := [.take 2, .emit, .take 9, .backup 1, .ignore, .next, .rest]
    source.Honest ∧ Conserved source sizing.clamp.chunk (fresh.cutByAll commands).flatten
      (fresh.performAll commands).2 := by
  intro source sizing fresh commands
  have honest : source.Honest := by decide
  exact ⟨honest, bytes_conserved honest sizing commands⟩

end RuneScan
