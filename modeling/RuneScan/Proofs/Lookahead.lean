import Mathlib.Data.List.Forall2
import RuneScan.Proofs.Lexer.Progress
import RuneScan.Proofs.Reader.Literals
import RuneScan.Proofs.Reader.ReadsAhead

/-!
Looking ahead cannot be seen. A command that takes nothing may have read, moved the bytes in use and
come to the end of the stream, but the cursor stands where it stood; and a rune that was looked at
is the next one, whatever the source does. So looks may be put between the commands of a script over
a source that is always ready: the answers to the commands stay the same, but that the end of the
stream may be known earlier.
-/

namespace RuneScan

namespace Reader

variable {reader after : Reader} {rune : Char}

/-! ### What takes nothing -/

/-- The command takes nothing here: it only looks at the next rune, or it is turned down. -/
def isLook (reader : Reader) : Command → Bool
  | .peek => true
  | .accept set => !(reader.accept set).1
  | .acceptWhen test => !(reader.acceptWhen test).1.succeeded
  | .acceptLiteral literal => !(reader.acceptLiteral literal).1
  | _ => false

structure Stays (before after : Reader) : Prop where
  later : Later before after
  passes : Passes before [] after

theorem Stays.sameCursor (stays : Stays reader after) (sound : reader.Sound) :
    SameCursor after reader :=
  stays.passes.sameCursor (.refl reader) stays.later.sound sound

theorem Sound.stays_of_none (sound : reader.Sound) (missed : reader.next = (none, after)) :
    Stays reader after := by
  obtain ⟨later, finish⟩ := sound.next
  rw [missed] at later finish
  cases finish with
  | ended _ passes _ _ => exact ⟨later, passes⟩
  | stalled _ passes _ _ _ => exact ⟨later, passes⟩

theorem Sound.stays_of_backup (sound : reader.Sound) (taken : reader.next = (some rune, after)) :
    Stays reader (after.backup 1) := by
  obtain ⟨later, finish⟩ := sound.next
  rw [taken] at later finish
  cases finish with
  | read _ _ passes _ =>
      exact ⟨later.trans (later.sound.backup 1).1, passes.backup later.sound⟩

theorem Sound.peek_stays (sound : reader.Sound) : Stays reader reader.peek.2 := by
  unfold Reader.peek
  split
  · rename_i last missed
    exact sound.stays_of_none missed
  · rename_i rune last taken
    exact sound.stays_of_backup taken

theorem Sound.acceptWhen_stays (sound : reader.Sound) {test : RuneTest}
    (refused : (reader.acceptWhen test).1.succeeded = false) :
    Stays reader (reader.acceptWhen test).2 := by
  unfold Reader.acceptWhen at refused ⊢
  split at refused
  · rename_i last missed
    exact sound.stays_of_none missed
  · rename_i rune last taken
    by_cases holds : test #[] rune = true
    · rw [if_pos holds] at refused
      cases refused
    · rw [if_neg holds]
      exact sound.stays_of_backup taken

theorem Sound.acceptLiteral_stays (sound : reader.Sound) {literal : List Char}
    (refused : (reader.acceptLiteral literal).1 = false) :
    Stays reader (reader.acceptLiteral literal).2 := by
  obtain ⟨later, attempt⟩ := sound.acceptLiteral literal
  rw [refused] at attempt
  cases attempt with
  | missed _ passes _ _ => exact ⟨later, passes⟩
  | cutShort _ passes _ _ => exact ⟨later, passes⟩

theorem Sound.look_stays (sound : reader.Sound) {command : Command}
    (look : reader.isLook command = true) : Stays reader (reader.perform command).2 := by
  cases command with
  | peek => exact sound.peek_stays
  | accept set => exact sound.acceptWhen_stays ((Bool.not_eq_true' _).mp look)
  | acceptWhen test => exact sound.acceptWhen_stays ((Bool.not_eq_true' _).mp look)
  | acceptLiteral literal => exact sound.acceptLiteral_stays ((Bool.not_eq_true' _).mp look)
  | _ => cases look

/-! ### The rune that was looked at -/

def resume (reader : Reader) (further : Source) : Reader :=
  { reader with intake := { reader.intake with source := further } }

/-- A rune at hand does not depend on what may still be read. -/
theorem Poised.next_resume (poised : Poised rune reader) (further : Source) :
    (reader.resume further).next.1 = some rune := by
  have laid : (reader.resume further).Laid :=
    ⟨{ poised.certain.laid.intake with }, poised.certain.laid.descending⟩
  obtain ⟨front, rfl, decided⟩ := poised.decided
  cases decided with
  | cons _ _ nonempty settled _ =>
      rw [laid.next_settled nonempty settled]
      rfl

end Reader

open Reader (SameCursor)

structure Foresees (reader : Reader) : Prop where
  /-- A rune that was looked at is the next one, whatever is read from then on. -/
  peeks : ∀ rune after, reader.peek = (some rune, after) → SameCursor after reader ∧
    after.next.1 = some rune ∧ ∀ further, (after.resume further).next.1 = some rune
  looks : ∀ command, reader.isLook command = true → SameCursor (reader.perform command).2 reader

theorem Reader.Certain.foresees {reader : Reader} (certain : reader.Certain) :
    Foresees reader := by
  constructor
  · intro rune after looked
    obtain ⟨passes, poised⟩ := certain.poised_of_peek looked
    exact ⟨passes.sameCursor (.refl reader) poised.certain.sound certain.sound, poised.next,
      poised.next_resume⟩
  · intro command look
    exact (certain.sound.look_stays look).sameCursor certain.sound

/-! ### Scripts -/

inductive Entry where
  | own (command : Command)
  | look (command : Command)

def Entry.own? : Entry → Option Command
  | .own command => some command
  | .look _ => none

namespace Reader

def performScript (reader : Reader) : List Entry → List Answer × Reader
  | [] => ([], reader)
  | .own command :: others =>
      let (answer, after) := reader.perform command
      let (answers, last) := after.performScript others
      (answer :: answers, last)
  | .look command :: others => (reader.perform command).2.performScript others

def onlyLooks (reader : Reader) : List Entry → Bool
  | [] => true
  | .own command :: others => (reader.perform command).2.onlyLooks others
  | .look command :: others =>
      reader.isLook command && (reader.perform command).2.onlyLooks others

end Reader

/-- The same answer, or that the end of the stream is known, where it was not. -/
inductive Answer.Sooner : Answer → Answer → Prop where
  | same (answer : Answer) : Sooner answer answer
  | known (error : ReadError) : Sooner (.error none) (.error (some error))

namespace Reader

variable {source : Source} {sizing : Sizing} {left right : Reader}

theorem Behind.look (behind : Behind source sizing left right) {command : Command}
    (look : right.isLook command = true) :
    Behind source sizing left (right.perform command).2 := by
  obtain ⟨_, arrived⟩ := behind.right_reached
  have alike := behind.alike
  have stays := alike.right_sound.look_stays look
  have further := (perform_leads right command).reaches
  obtain ⟨pending, coming, _⟩ := stays.passes.nil_eq alike.right_sound stays.later.sound
  have steady := stays.later.stalls_le
  rw [alike.right_steady] at steady
  refine ⟨?_, behind.left_reached, ⟨_, arrived.trans further⟩,
    Nat.le_trans behind.reads_le (further.reads_le (arrived.laid (laid_start source sizing)))⟩
  exact
    { alike with
      right_sound := stays.later.sound
      right_steady := Nat.le_zero.mp steady
      tokenStart_eq := alike.tokenStart_eq.trans stays.passes.tokenStart_eq.symm
      pending_eq := alike.pending_eq.trans pending.symm
      coming_eq := alike.coming_eq.trans coming.symm }

theorem Behind.answer (behind : Behind source sizing left right) (command : Command) :
    Answer.Sooner (left.perform command).1 (right.perform command).1 := by
  cases asks : command.asksError with
  | false =>
      rw [(behind.alike.perform command).1 asks]
      exact .same _
  | true =>
      cases command with
      | error =>
          change Answer.Sooner (.error left.error?) (.error right.error?)
          cases known : left.error? with
          | some error =>
              rw [behind.error?_of known]
              exact .same _
          | none =>
              cases right.error? with
              | none => exact .same _
              | some error => exact .known error
      | _ => cases asks

/-- A run with looks in it and the run without them stay alike, and the former the further. -/
theorem Behind.performScript (behind : Behind source sizing left right) {script : List Entry}
    (looks : right.onlyLooks script = true) :
    let plain := left.performAll (script.filterMap Entry.own?)
    let woven := right.performScript script
    List.Forall₂ Answer.Sooner plain.1 woven.1 ∧ Behind source sizing plain.2 woven.2 := by
  induction script generalizing left right with
  | nil => exact ⟨.nil, behind⟩
  | cons entry others ih =>
      cases entry with
      | own command =>
          obtain ⟨answers, finish⟩ := ih (behind.perform command) looks
          exact ⟨.cons (behind.answer command) answers, finish⟩
      | look command =>
          obtain ⟨look, rest⟩ := Bool.and_eq_true_iff.mp looks
          exact ih (behind.look look) rest

end Reader

structure Transparent (plain woven : List Answer × Reader) : Prop where
  /-- Answers differ only where the recorded error is asked for, and is recorded earlier. -/
  answers : List.Forall₂ Answer.Sooner plain.1 woven.1
  cursor : SameCursor plain.2 woven.2
  error?_of : ∀ error, plain.2.error? = some error → woven.2.error? = some error
  isExhausted_of : plain.2.isExhausted = true → woven.2.isExhausted = true

/-- In every state that commands lead to, what was looked at comes next; and where the source is
always ready, looks put into a script change none of its answers. -/
theorem lookahead_is_transparent {source : Source} (honest : source.Honest) (sizing : Sizing) :
    let fresh := Reader.start source sizing
    (∀ commands, Foresees (fresh.performAll commands).2) ∧
    (source.Steady → ∀ script, fresh.onlyLooks script = true →
      Transparent (fresh.performAll (script.filterMap Entry.own?))
        (fresh.performScript script)) := by
  intro fresh
  constructor
  · intro commands
    have reaches := Reader.performAll_reaches fresh commands
    exact (reaches.certain (Reader.certain_start honest sizing)).foresees
  · intro steady script looks
    have sound : fresh.Sound := Reader.sound_start honest sizing
    have ready : fresh.intake.source.stalls = 0 := Source.steady_iff.mp steady
    have begin : Reader.Behind source sizing fresh fresh :=
      ⟨⟨sound, sound, ready, ready, rfl, rfl, rfl⟩, ⟨[], .refl fresh⟩, ⟨[], .refl fresh⟩,
        Nat.le_refl _⟩
    obtain ⟨answers, behind⟩ := begin.performScript looks
    have alike := behind.alike
    exact ⟨answers, ⟨alike.position_eq, alike.tokenStart_eq, alike.pending_eq, alike.history_eq⟩,
      fun error => behind.error?_of, behind.isExhausted_of⟩

/-- Looks meet a scalar value that the loss of the connection cuts off. The client is told of the
loss earlier, and of nothing else. -/
theorem lookahead_is_transparent_cut_rune :
    let source := Source.ofEvents [.data [0x61], .data [0xE2, 0x82],
      .failure ⟨.connectionReset, none⟩]
    let fresh := Reader.start source ⟨4, 4⟩
    let script : List Entry := [.look .peek, .own .next, .look (.acceptLiteral ['€', '!']),
      .look (.acceptWhen (.ofClass (· == '€'))), .own .error, .own .next, .own .emit]
    let plain := fresh.performAll (script.filterMap Entry.own?)
    let woven := fresh.performScript script
    source.Honest ∧ source.Steady ∧ fresh.onlyLooks script = true ∧
      plain.1 = [.rune 'a', .error none, .rune Utf8.replacement,
        .lexeme ⟨[0x61, 0xE2], ⟨1, 1⟩⟩] ∧
      woven.1 = [.rune 'a', .error (some (.source ⟨.connectionReset, none⟩)),
        .rune Utf8.replacement, .lexeme ⟨[0x61, 0xE2], ⟨1, 1⟩⟩] ∧
      fresh.peek.1 = some 'a' ∧ Foresees fresh ∧ Transparent plain woven := by
  intro source fresh script plain woven
  have honest : source.Honest := by decide
  have steady : source.Steady := by decide
  have looks : fresh.onlyLooks script = true := by decide +kernel
  have without : plain.1 = [.rune 'a', .error none, .rune Utf8.replacement,
      .lexeme ⟨[0x61, 0xE2], ⟨1, 1⟩⟩] := by decide +kernel
  have within : woven.1 = [.rune 'a', .error (some (.source ⟨.connectionReset, none⟩)),
      .rune Utf8.replacement, .lexeme ⟨[0x61, 0xE2], ⟨1, 1⟩⟩] := by decide +kernel
  have looked : fresh.peek.1 = some 'a' := by decide +kernel
  obtain ⟨foresees, transparent⟩ := lookahead_is_transparent honest ⟨4, 4⟩
  exact ⟨honest, steady, looks, without, within, looked, foresees [],
    transparent steady script looks⟩

end RuneScan
