import RuneScan.Proofs.Reader.Calls
import RuneScan.Proofs.Reader.Literals

/-!
An attempt at a literal takes all of it or nothing. Where it takes nothing the reader is as it was
before, whether another rune stood in the way, the stream ended, the source broke or was not ready; so
an attempt that a stall cut short can be made again, and enough of them decide whether the literal
stands at the cursor.
-/

namespace RuneScan

open Utf8 (runes)

namespace Reader

def retryLiteral (literal : List Char) : Nat → Reader → Bool × Reader
  | 0, reader => (false, reader)
  | tries + 1, reader =>
      match reader.acceptLiteral literal with
      | (true, after) => (true, after)
      | (false, after) => retryLiteral literal tries after

structure Settles (literal : List Char) (before : Reader) (answer : Bool) (after : Reader) :
    Prop where
  later : Later before after
  passes : ∃ passed, Passes before passed after ∧
    passed.map Rune.char = if answer then literal else []

variable {literal : List Char} {before after : Reader}

theorem Settles.begins (settles : Settles literal before true after) (sound : before.Sound) :
    literal <+: (runes before.coming).map Rune.char := by
  obtain ⟨passed, passes, same⟩ := settles.passes
  rw [if_pos rfl] at same
  rw [passes.runes_coming sound settles.later.sound, List.map_append, same]
  exact List.prefix_append _ _

theorem Settles.still (settles : Settles literal before false after) : Passes before [] after := by
  obtain ⟨passed, passes, same⟩ := settles.passes
  have nothing : passed = [] := List.map_eq_nil_iff.mp same
  rw [nothing] at passes
  exact passes

theorem Settles.coming_eq (settles : Settles literal before false after) (sound : before.Sound) :
    after.coming = before.coming :=
  (settles.still.nil_eq sound settles.later.sound).2.1

theorem Sound.settles (sound : before.Sound) (literal : List Char) :
    Settles literal before (before.acceptLiteral literal).1 (before.acceptLiteral literal).2 ∧
      ((before.acceptLiteral literal).1 = false →
        ¬ literal <+: (runes before.coming).map Rune.char ∨
          (before.acceptLiteral literal).2.intake.source.stalls <
            before.intake.source.stalls) := by
  obtain ⟨later, attempt⟩ := sound.acceptLiteral literal
  generalize before.acceptLiteral literal = result at later attempt ⊢
  rcases result with ⟨answer, after⟩
  cases attempt with
  | taken passed _ passes same =>
      refine ⟨⟨later, passed, passes, same⟩, ?_⟩
      intro missed
      cases missed
  | missed _ passes absent _ => exact ⟨⟨later, [], passes, rfl⟩, fun _ => .inl absent⟩
  | cutShort _ passes _ fewer => exact ⟨⟨later, [], passes, rfl⟩, fun _ => .inr fewer⟩

/-- Each try that fails leaves all as it was, and uses up a stall if the literal is there. -/
theorem Sound.retryLiteral (sound : before.Sound) (literal : List Char) (tries : Nat) :
    Settles literal before (before.retryLiteral literal tries).1
        (before.retryLiteral literal tries).2 ∧
      (before.intake.source.stalls < tries →
        literal <+: (runes before.coming).map Rune.char →
          (before.retryLiteral literal tries).1 = true) := by
  induction tries generalizing before with
  | zero =>
      refine ⟨⟨.refl sound, [], .refl before, rfl⟩, ?_⟩
      intro few
      exact absurd few (Nat.not_lt_zero _)
  | succ tries ih =>
      obtain ⟨settles, fails⟩ := sound.settles literal
      unfold Reader.retryLiteral
      generalize before.acceptLiteral literal = result at settles fails ⊢
      rcases result with ⟨answer, after⟩
      simp only at settles fails ⊢
      cases answer with
      | true => exact ⟨settles, fun _ _ => rfl⟩
      | false =>
          obtain ⟨again, decides⟩ := ih settles.later.sound
          obtain ⟨passed, passes, same⟩ := again.passes
          refine ⟨⟨settles.later.trans again.later, passed, settles.still.trans passes, same⟩, ?_⟩
          intro enough begins
          rw [settles.coming_eq sound] at decides
          rcases fails rfl with absent | fewer
          · exact absurd begins absent
          · exact decides (by omega) begins

end Reader

open Reader (Awaits Consumes MetStall SameCursor)

structure Attempted (source : Source) (cut : List UInt8) (rest : List Rune) (literal : List Char)
    (before : Reader) (answer : Bool) (after : Reader) : Prop where
  takes : answer = true → literal <+: rest.map Rune.char ∧
    Consumes source cut rest literal.length before after
  leaves : answer = false → SameCursor after before ∧ Awaits source cut after rest

structure AllOrNothing (source : Source) (cut : List UInt8) (rest : List Rune)
    (literal : List Char) (reader : Reader) : Prop where
  attempted : Attempted source cut rest literal reader (reader.acceptLiteral literal).1
    (reader.acceptLiteral literal).2
  excused : (reader.acceptLiteral literal).1 = false →
    ¬ literal <+: rest.map Rune.char ∨ MetStall reader (reader.acceptLiteral literal).2
  decides : ¬ MetStall reader (reader.acceptLiteral literal).2 →
    ((reader.acceptLiteral literal).1 = true ↔ literal <+: rest.map Rune.char)
  /-- The attempt can be made again, and more attempts than the source has stalls left decide. -/
  repeats : ∀ tries,
    Attempted source cut rest literal reader (reader.retryLiteral literal tries).1
      (reader.retryLiteral literal tries).2 ∧
    (reader.intake.source.stalls < tries →
      ((reader.retryLiteral literal tries).1 = true ↔ literal <+: rest.map Rune.char))

theorem Reader.Settles.attempted {source : Source} {sizing : Sizing} {texts : List (List UInt8)}
    {literal : List Char} {before after : Reader} {answer : Bool}
    (settles : Settles literal before answer after)
    (reaches : Reaches (start source sizing) texts before) (honest : source.Honest) :
    Attempted source texts.flatten (runes before.coming) literal before answer after := by
  have sound := (reaches.later (sound_start honest sizing)).sound
  constructor
  · rintro rfl
    obtain ⟨passed, passes, same⟩ := settles.passes
    have consumes := reaches.consumes honest passes settles.later.sound
    have length : passed.length = literal.length := by
      rw [if_pos rfl] at same
      rw [← same, List.length_map]
    rw [length] at consumes
    exact ⟨settles.begins sound, consumes⟩
  · rintro rfl
    exact ⟨settles.still.sameCursor (.refl before) settles.later.sound sound,
      (reaches.consumes honest settles.still settles.later.sound).awaits⟩

/-- In every state that commands lead to, an attempt at a literal takes all of it or nothing. -/
theorem literal_taken_whole_or_not {source : Source} (honest : source.Honest) (sizing : Sizing)
    (commands : List Command) (literal : List Char) :
    let fresh := Reader.start source sizing
    let cut := (fresh.cutByAll commands).flatten
    let reader := (fresh.performAll commands).2
    ∃ rest, Awaits source cut reader rest ∧ AllOrNothing source cut rest literal reader := by
  intro fresh cut reader
  have reaches : Reader.Reaches fresh (fresh.cutByAll commands) reader :=
    Reader.performAll_reaches fresh commands
  have sound := (reaches.later (Reader.sound_start honest sizing)).sound
  have laid := reaches.laid (Reader.laid_start source sizing)
  obtain ⟨settles, fails⟩ := sound.settles literal
  have met := (Reader.acceptLiteral_leads literal reader).reaches.metStall_iff laid
  have excused : (reader.acceptLiteral literal).1 = false →
      ¬ literal <+: (runes reader.coming).map Rune.char ∨
        MetStall reader (reader.acceptLiteral literal).2 := by
    intro missed
    rw [met]
    exact fails missed
  have attempted := settles.attempted reaches honest
  refine ⟨runes reader.coming, reaches.awaits honest, attempted, excused, ?_, ?_⟩
  · intro ready
    refine ⟨fun taken => (attempted.takes taken).1, ?_⟩
    intro begins
    rw [← Bool.not_eq_false]
    intro missed
    rcases excused missed with absent | stalled
    · exact absent begins
    · exact ready stalled
  · intro tries
    obtain ⟨again, decided⟩ := sound.retryLiteral literal tries
    have settled := again.attempted reaches honest
    exact ⟨settled, fun enough => ⟨fun taken => (settled.takes taken).1, decided enough⟩⟩

/-- The source is not ready between the runes of the literal, and the window grows over them. The
attempt leaves the rune taken before as it was, and the next one takes the literal. -/
theorem literal_taken_whole_or_not_stalled :
    let source := Source.ofEvents [.data [0x61, 0xE4, 0xB8], .data [0xAD],
      .failure ⟨.wouldBlock, none⟩, .data [0xE6, 0x96, 0x87], .failure ⟨.connectionReset, none⟩]
    let fresh := Reader.start source ⟨4, 4⟩
    let cut := (fresh.cutByAll [.next]).flatten
    let reader := (fresh.performAll [.next]).2
    source.Honest ∧ (reader.acceptLiteral ['中', '文']).1 = false ∧
      MetStall reader (reader.acceptLiteral ['中', '文']).2 ∧
      (reader.acceptLiteral ['中', '文']).2.pending = [0x61] ∧
      (reader.retryLiteral ['中', '文'] 2).1 = true ∧
      ∃ rest, Awaits source cut reader rest ∧
        AllOrNothing source cut rest ['中', '文'] reader := by
  intro source fresh cut reader
  have honest : source.Honest := by decide
  have missed : (reader.acceptLiteral ['中', '文']).1 = false := by decide +kernel
  have met : MetStall reader (reader.acceptLiteral ['中', '文']).2 := by decide +kernel
  have pending : (reader.acceptLiteral ['中', '文']).2.pending = [0x61] := by decide +kernel
  have again : (reader.retryLiteral ['中', '文'] 2).1 = true := by decide +kernel
  exact ⟨honest, missed, met, pending, again,
    literal_taken_whole_or_not honest ⟨4, 4⟩ [.next] ['中', '文']⟩

end RuneScan
