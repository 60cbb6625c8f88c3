import RuneScan.History
import RuneScan.Intake
import RuneScan.Lexeme

/-!
The reader: a cursor that yields one rune at a time, can go back to the last token boundary, and
cuts off the text it has passed as a token.

That `next` yields no rune has three reasons, which the recorded error tells apart: the input is
finished, the source failed, or, with no error recorded, the source was not ready.
-/

namespace RuneScan

structure Reader where
  intake : Intake
  history : History
  position : Position
  tokenStart : Position
deriving DecidableEq, Repr

namespace Reader

def start (source : Source) (sizing : Sizing) : Reader :=
  ⟨.start source sizing, [], .start, .start⟩

def ofBytes (bytes : List UInt8) : Reader :=
  start (.ofBytes bytes) .standard

/-- A new reader on what is left in the source. Bytes taken in and not read are lost. -/
def restart (reader : Reader) (sizing : Sizing) : Reader :=
  start reader.intake.source sizing

/-! ### Observations -/

def pending (reader : Reader) : List UInt8 :=
  reader.intake.window.pending

def error? (reader : Reader) : Option ReadError :=
  reader.intake.condition.error?

def violation? (reader : Reader) : Option String :=
  reader.intake.condition.violation?

def isExhausted (reader : Reader) : Bool :=
  reader.error? == some .endOfStream && reader.intake.window.ahead.isEmpty

def journalSince (reader : Reader) (count : Nat) : List TraceEvent :=
  (reader.intake.journal.take (reader.intake.journal.length - count)).reverse

/-! ### Steps -/

def pass (reader : Reader) (rune : Rune) : Reader :=
  { reader with
    intake := { reader.intake with window := reader.intake.window.consume rune.width }
    history := ⟨reader.intake.window.offset, reader.position⟩ :: reader.history
    position := reader.position.advance rune.char }

def next (reader : Reader) : Option Char × Reader :=
  let ready : Reader := { reader with intake := reader.intake.fill }
  match Utf8.decode ready.intake.window.lookahead ready.intake.hasEnded with
  | .rune rune => (some rune.char, ready.pass rune)
  | .empty | .incomplete => (none, ready)

/-- Undoes up to `count` of the latest runes, and stops at the token boundary. -/
def backup (reader : Reader) (count : Nat) : Reader :=
  match reader.history.rewind count with
  | (none, _) => reader
  | (some snapshot, earlier) =>
      { reader with
        intake := { reader.intake with window := reader.intake.window.rewind snapshot.offset }
        history := earlier
        position := snapshot.position }

def peek (reader : Reader) : Option Char × Reader :=
  match reader.next with
  | (none, after) => (none, after)
  | (some rune, after) => (some rune, after.backup 1)

def ignore (reader : Reader) : Reader :=
  { reader with
    intake := { reader.intake with window := reader.intake.window.markStart }
    history := []
    tokenStart := reader.position }

def emit (reader : Reader) : Lexeme × Reader :=
  (⟨reader.pending, reader.tokenStart⟩, reader.ignore)

/-! ### What is left -/

def remaining (reader : Reader) : Nat :=
  reader.intake.remaining

/-- No more bytes are left after a step than before it, whether they are counted in the source or
from the start of the pending token on. Unlike the bytes from the cursor on, these are no more after
the cursor has gone back either. -/
structure Within (before after : Reader) : Prop where
  bytesLeft_le : after.intake.source.bytesLeft ≤ before.intake.source.bytesLeft
  span_le : after.intake.span ≤ before.intake.span

theorem Within.refl (reader : Reader) : Within reader reader :=
  ⟨Nat.le_refl _, Nat.le_refl _⟩

theorem Within.trans {first second third : Reader}
    (earlier : Within first second) (later : Within second third) : Within first third :=
  ⟨Nat.le_trans later.bytesLeft_le earlier.bytesLeft_le,
    Nat.le_trans later.span_le earlier.span_le⟩

theorem pass_within (reader : Reader) (rune : Rune) : Within reader (reader.pass rune) :=
  ⟨Nat.le_refl _, Nat.le_refl _⟩

theorem backup_within (reader : Reader) (count : Nat) : Within reader (reader.backup count) := by
  unfold backup
  split <;> exact ⟨Nat.le_refl _, Nat.le_refl _⟩

/-- What `next` does, by whether it yields a rune. -/
theorem next_cases (reader : Reader) :
    reader.next = (none, { reader with intake := reader.intake.fill }) ∨
      ∃ rune : Rune, 0 < rune.width ∧ rune.width ≤ reader.intake.fill.window.unread ∧
        reader.next =
          (some rune.char, Reader.pass { reader with intake := reader.intake.fill } rune) := by
  unfold next
  simp only
  split
  · rename_i rune decoded
    have width := Utf8.decode_rune_width decoded
    exact .inr ⟨rune, width.1,
      Nat.le_trans width.2 (Window.lookahead_length_le_unread _), rfl⟩
  · exact .inl rfl
  · exact .inl rfl

theorem next_within (reader : Reader) : Within reader reader.next.2 := by
  have fill := reader.intake.fill_noMore
  have filled : Within reader { reader with intake := reader.intake.fill } :=
    ⟨fill.bytesLeft_le, fill.span_le⟩
  rcases next_cases reader with same | ⟨rune, _, _, same⟩
  · rw [same]
    exact filled
  · rw [same]
    exact filled.trans (pass_within _ rune)

theorem next_remaining_le (reader : Reader) : reader.next.2.remaining ≤ reader.remaining := by
  have fill := reader.intake.fill_noMore.remaining_le
  rcases next_cases reader with same | ⟨rune, _, _, same⟩
  · rw [same]
    exact fill
  · rw [same]
    refine Nat.le_trans ?_ fill
    simp only [remaining, pass, Intake.remaining, Window.consume, Window.unread]
    omega

theorem next_remaining_lt {reader after : Reader} {rune : Char}
    (taken : reader.next = (some rune, after)) : after.remaining < reader.remaining := by
  have fill := reader.intake.fill_noMore.remaining_le
  rcases next_cases reader with same | ⟨decoded, positive, available, same⟩
  · rw [same] at taken
    simp at taken
  · rw [same] at taken
    simp only [Prod.mk.injEq] at taken
    rw [← taken.2]
    refine Nat.lt_of_lt_of_le ?_ fill
    simp only [Window.unread] at available
    simp only [remaining, pass, Intake.remaining, Window.consume, Window.unread]
    omega

theorem peek_within (reader : Reader) : Within reader reader.peek.2 := by
  have step := next_within reader
  unfold peek
  split
  · rename_i after same
    rw [same] at step
    exact step
  · rename_i rune after same
    rw [same] at step
    exact step.trans (backup_within after 1)

theorem ignore_remaining (reader : Reader) : reader.ignore.remaining = reader.remaining := rfl

/-- Cutting off a token that holds a byte leaves less than there was from the token's start. -/
theorem remaining_lt_span {reader : Reader} (holds : reader.intake.window.holdsToken = true) :
    reader.remaining < reader.intake.span := by
  simp only [Window.holdsToken, decide_eq_true_eq] at holds
  simp only [remaining, Intake.remaining, Intake.span, Window.unread, Window.retained]
  omega

end Reader
end RuneScan
