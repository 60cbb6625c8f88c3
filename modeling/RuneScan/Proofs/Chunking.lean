import RuneScan.Command
import RuneScan.Proofs.Reader.Steps
import RuneScan.Proofs.Reader.Unfolding

/-!
How a stream is cut into reads cannot be seen. Two readers over sources that are always ready and
have the same stream are alike when their tokens begin at the same place, hold the same bytes and
have the same bytes before them; the windows, the reads made and the way the streams end are left
open. Every operation yields the same on readers alike, and leaves them alike.
-/

namespace RuneScan

open Utf8 (runes widths)

namespace Reader

structure Alike (left right : Reader) : Prop where
  left_sound : left.Sound
  right_sound : right.Sound
  left_steady : left.intake.source.stalls = 0
  right_steady : right.intake.source.stalls = 0
  tokenStart_eq : left.tokenStart = right.tokenStart
  pending_eq : left.pending = right.pending
  coming_eq : left.coming = right.coming

def Agree {Result : Type} (left right : Result × Reader) : Prop :=
  left.1 = right.1 ∧ Alike left.2 right.2

variable {left right : Reader}

theorem Alike.history_eq (alike : Alike left right) : left.history = right.history := by
  rw [alike.left_sound.history_eq, alike.right_sound.history_eq, alike.tokenStart_eq,
    alike.pending_eq]

theorem Alike.position_eq (alike : Alike left right) : left.position = right.position := by
  rw [alike.left_sound.position_eq, alike.right_sound.position_eq, alike.tokenStart_eq,
    alike.pending_eq]

theorem Agree.follow {Result : Type} {first second : Result × Reader} {result : Result}
    {after : Reader} (agree : Agree first second) (same : first = (result, after)) :
    ∃ other, second = (result, other) ∧ Alike after other := by
  rcases second with ⟨answer, other⟩
  rw [same] at agree
  rcases agree with ⟨rfl, alike⟩
  exact ⟨other, rfl, alike⟩

theorem Alike.holdsToken_eq (alike : Alike left right) :
    left.intake.window.holdsToken = right.intake.window.holdsToken := by
  rw [alike.left_sound.intake.ordered.holdsToken_eq,
    alike.right_sound.intake.ordered.holdsToken_eq]
  change decide (left.pending ≠ []) = decide (right.pending ≠ [])
  rw [alike.pending_eq]

/-! ### The three moves -/

/-- Both readers have moved, and have the same pending bytes and the same bytes to come. -/
private theorem Alike.moved {first second : Reader} (alike : Alike left right)
    (leftLater : Later left first) (rightLater : Later right second)
    (tokenStart : first.tokenStart = second.tokenStart)
    (whole : first.pending ++ first.coming = second.pending ++ second.coming)
    (length : first.pending.length = second.pending.length) : Alike first second := by
  obtain ⟨pending, coming⟩ := List.append_inj whole length
  refine ⟨leftLater.sound, rightLater.sound, ?_, ?_, tokenStart, pending, coming⟩
  · have fewer := leftLater.stalls_le
    rw [alike.left_steady] at fewer
    exact Nat.le_zero.mp fewer
  · have fewer := rightLater.stalls_le
    rw [alike.right_steady] at fewer
    exact Nat.le_zero.mp fewer

/-- Over a source that is always ready, `next` yields the first rune to come, and none only at the
end of the stream. -/
theorem Sound.next_steady {reader : Reader} (sound : reader.Sound)
    (steady : reader.intake.source.stalls = 0) :
    reader.next.1 = (runes reader.coming).head?.map Rune.char ∧
      Passes reader ((runes reader.coming).take 1) reader.next.2 ∧
      (reader.next.1 = none → reader.next.2.error?.isSome = true) := by
  rcases sound.next with ⟨later, finish⟩
  generalize reader.next = result at later finish ⊢
  rcases result with ⟨answer, after⟩
  simp only at later finish ⊢
  cases finish with
  | read rune _ passes front =>
      rw [front]
      refine ⟨rfl, passes, ?_⟩
      intro missed
      cases missed
  | ended _ passes finished nothing =>
      have coming := (passes.nil_eq sound later.sound).2.1
      rw [← coming, nothing, Utf8.runes_nil]
      exact ⟨rfl, passes, fun _ => finished⟩
  | stalled _ passes live stalled front =>
      -- No stall is left that could have happened.
      have fewer := stalled.1
      rw [steady] at fewer
      exact absurd fewer (Nat.not_lt_zero _)

theorem Alike.next (alike : Alike left right) : Agree left.next right.next := by
  obtain ⟨leftAnswer, leftPasses, _⟩ := alike.left_sound.next_steady alike.left_steady
  obtain ⟨rightAnswer, rightPasses, _⟩ := alike.right_sound.next_steady alike.right_steady
  constructor
  · rw [leftAnswer, rightAnswer, alike.coming_eq]
  · apply alike.moved alike.left_sound.next.1 alike.right_sound.next.1
    · rw [leftPasses.tokenStart_eq, rightPasses.tokenStart_eq, alike.tokenStart_eq]
    · rw [leftPasses.whole_eq, rightPasses.whole_eq, alike.pending_eq, alike.coming_eq]
    · rw [leftPasses.length_pending, rightPasses.length_pending, alike.pending_eq,
        alike.coming_eq]

theorem Alike.backup (alike : Alike left right) (count : Nat) :
    Alike (left.backup count) (right.backup count) := by
  obtain ⟨leftLater, leftPasses⟩ := alike.left_sound.backup count
  obtain ⟨rightLater, rightPasses⟩ := alike.right_sound.backup count
  apply alike.moved leftLater rightLater
  · rw [← leftPasses.tokenStart_eq, ← rightPasses.tokenStart_eq, alike.tokenStart_eq]
  · rw [← leftPasses.whole_eq, ← rightPasses.whole_eq, alike.pending_eq, alike.coming_eq]
  · have first := leftPasses.length_pending
    have second := rightPasses.length_pending
    rw [alike.pending_eq] at first
    omega

theorem Alike.ignore (alike : Alike left right) : Alike left.ignore right.ignore := by
  apply alike.moved alike.left_sound.ignore alike.right_sound.ignore
  · exact alike.position_eq
  · rw [pending_ignore, pending_ignore, coming_ignore, coming_ignore, alike.coming_eq]
  · rw [pending_ignore, pending_ignore]

theorem Alike.emit (alike : Alike left right) : Agree left.emit right.emit := by
  refine ⟨?_, alike.ignore⟩
  change Lexeme.mk left.pending left.tokenStart = Lexeme.mk right.pending right.tokenStart
  rw [alike.pending_eq, alike.tokenStart_eq]

/-! ### Runs of `next` -/

theorem Alike.peek (alike : Alike left right) : Agree left.peek right.peek := by
  unfold Reader.peek
  split
  · rename_i after taken
    obtain ⟨other, same, alike⟩ := alike.next.follow taken
    rw [same]
    exact ⟨rfl, alike⟩
  · rename_i rune after taken
    obtain ⟨other, same, alike⟩ := alike.next.follow taken
    rw [same]
    exact ⟨rfl, alike.backup 1⟩

theorem Alike.take (count : Nat) (alike : Alike left right) :
    Agree (left.take count) (right.take count) := by
  induction count generalizing left right with
  | zero => exact ⟨rfl, alike⟩
  | succ count ih =>
      unfold Reader.take
      split
      · rename_i after taken
        obtain ⟨other, same, alike⟩ := alike.next.follow taken
        rw [same]
        exact ⟨rfl, alike⟩
      · rename_i rune after taken
        obtain ⟨other, same, alike⟩ := alike.next.follow taken
        rw [same]
        obtain ⟨runes, alike⟩ := ih alike
        exact ⟨congrArg (rune :: ·) runes, alike⟩

theorem Alike.nth (count : Nat) (alike : Alike left right) :
    Agree (left.nth count) (right.nth count) := by
  induction count generalizing left right with
  | zero => exact alike.next
  | succ count ih =>
      unfold Reader.nth
      split
      · rename_i after taken
        obtain ⟨other, same, alike⟩ := alike.next.follow taken
        rw [same]
        exact ⟨rfl, alike⟩
      · rename_i rune after taken
        obtain ⟨other, same, alike⟩ := alike.next.follow taken
        rw [same]
        exact ih alike

theorem Alike.rest (alike : Alike left right) : Agree left.rest right.rest := by
  fun_induction Reader.rest left generalizing right with
  | case1 left after taken =>
      obtain ⟨other, same, alike⟩ := alike.next.follow taken
      rw [rest_eq, same]
      exact ⟨rfl, alike⟩
  | case2 left rune after taken runes last result ih =>
      obtain ⟨other, same, alike⟩ := alike.next.follow taken
      obtain ⟨others, alike⟩ := ih alike
      rw [rest_eq, same]
      rw [result] at others alike
      exact ⟨congrArg (rune :: ·) others, alike⟩

theorem Alike.takeWhileFrom (test : RuneTest) (shown : Array Char) (alike : Alike left right) :
    Agree (left.takeWhileFrom test shown) (right.takeWhileFrom test shown) := by
  fun_induction Reader.takeWhileFrom test shown left generalizing right with
  | case1 shown left after taken =>
      obtain ⟨other, same, alike⟩ := alike.next.follow taken
      rw [takeWhileFrom_eq, same]
      exact ⟨rfl, alike⟩
  | case2 shown left rune after taken holds run last result ih =>
      obtain ⟨other, same, alike⟩ := alike.next.follow taken
      obtain ⟨others, alike⟩ := ih alike
      rw [result] at others alike
      rw [takeWhileFrom_eq, same]
      simp only [holds, if_true]
      rw [← others]
      exact ⟨rfl, alike⟩
  | case3 shown left rune after taken fails =>
      obtain ⟨other, same, alike⟩ := alike.next.follow taken
      rw [takeWhileFrom_eq, same]
      simp only [fails, Bool.false_eq_true, if_false]
      exact ⟨rfl, alike⟩

/-! ### Sets and tests -/

theorem Alike.acceptWhen (test : RuneTest) (alike : Alike left right) :
    Agree (left.acceptWhen test) (right.acceptWhen test) := by
  unfold Reader.acceptWhen
  split
  · rename_i after taken
    obtain ⟨other, same, alike⟩ := alike.next.follow taken
    rw [same]
    exact ⟨rfl, alike⟩
  · rename_i rune after taken
    obtain ⟨other, same, alike⟩ := alike.next.follow taken
    rw [same]
    by_cases holds : test #[] rune = true
    · simp only [holds, if_true]
      exact ⟨rfl, alike⟩
    · simp only [holds, Bool.false_eq_true, if_false]
      exact ⟨rfl, alike.backup 1⟩

theorem Alike.acceptRunFrom (test : RuneTest) (shown : Array Char) (alike : Alike left right) :
    Agree (left.acceptRunFrom test shown) (right.acceptRunFrom test shown) := by
  fun_induction Reader.acceptRunFrom test shown left generalizing right with
  | case1 shown left after taken =>
      obtain ⟨other, same, alike⟩ := alike.next.follow taken
      rw [acceptRunFrom_eq, same]
      exact ⟨rfl, alike⟩
  | case2 shown left rune after taken holds run last result ih =>
      obtain ⟨other, same, alike⟩ := alike.next.follow taken
      obtain ⟨others, alike⟩ := ih alike
      rw [result] at others alike
      rw [acceptRunFrom_eq, same]
      simp only [holds, if_true]
      rw [← others]
      exact ⟨rfl, alike⟩
  | case3 shown left rune after taken fails =>
      obtain ⟨other, same, alike⟩ := alike.next.follow taken
      rw [acceptRunFrom_eq, same]
      simp only [fails, Bool.false_eq_true, if_false]
      exact ⟨rfl, alike.backup 1⟩

theorem Agree.map {Result Other : Type} {first second : Result × Reader}
    (agree : Agree first second) (view : Result → Other) :
    Agree (view first.1, first.2) (view second.1, second.2) :=
  ⟨congrArg view agree.1, agree.2⟩

/-! ### Literals -/

theorem Alike.acceptLiteral (literal : List Char) (alike : Alike left right) :
    Agree (left.acceptLiteral literal) (right.acceptLiteral literal) := by
  induction literal generalizing left right with
  | nil => exact ⟨rfl, alike⟩
  | cons expected others ih =>
      unfold Reader.acceptLiteral
      split
      · rename_i after taken
        obtain ⟨other, same, alike⟩ := alike.next.follow taken
        rw [same]
        exact ⟨rfl, alike⟩
      · rename_i rune after taken
        obtain ⟨other, same, alike⟩ := alike.next.follow taken
        rw [same]
        by_cases matched : rune = expected
        · simp only [matched, if_true]
          split
          · rename_i last result
            obtain ⟨other, same, alike⟩ := (ih alike).follow result
            rw [same]
            exact ⟨rfl, alike⟩
          · rename_i last result
            obtain ⟨other, same, alike⟩ := (ih alike).follow result
            rw [same]
            exact ⟨rfl, alike.backup 1⟩
        · simp only [matched, if_false]
          exact ⟨rfl, alike.backup 1⟩

theorem Alike.acceptAnyLiteral (literals : List (List Char)) (alike : Alike left right) :
    Agree (left.acceptAnyLiteral literals) (right.acceptAnyLiteral literals) := by
  induction literals generalizing left right with
  | nil => exact ⟨rfl, alike⟩
  | cons literal others ih =>
      unfold Reader.acceptAnyLiteral
      split
      · rename_i after result
        obtain ⟨other, same, alike⟩ := (alike.acceptLiteral literal).follow result
        rw [same]
        exact ⟨rfl, alike⟩
      · rename_i after result
        obtain ⟨other, same, alike⟩ := (alike.acceptLiteral literal).follow result
        rw [same]
        exact ih alike

theorem Alike.seekPast (literal : List Char) (alike : Alike left right) :
    Agree (left.seekPast literal) (right.seekPast literal) := by
  fun_induction Reader.seekPast literal left generalizing right with
  | case1 left after found =>
      obtain ⟨other, same, alike⟩ := (alike.acceptLiteral literal).follow found
      rw [seekPast_eq, same]
      exact ⟨rfl, alike⟩
  | case2 left after missed last taken =>
      obtain ⟨other, same, alike⟩ := (alike.acceptLiteral literal).follow missed
      obtain ⟨final, ended, alike⟩ := alike.next.follow taken
      rw [seekPast_eq, same]
      simp only [ended]
      exact ⟨rfl, alike⟩
  | case3 left after missed rune last taken search finish result ih =>
      obtain ⟨other, same, alike⟩ := (alike.acceptLiteral literal).follow missed
      obtain ⟨final, passed, alike⟩ := alike.next.follow taken
      obtain ⟨others, alike⟩ := ih alike
      rw [result] at others alike
      rw [seekPast_eq, same]
      simp only [passed]
      rw [← others]
      exact ⟨rfl, alike⟩

theorem Alike.seekTo (literal : List Char) (alike : Alike left right) :
    Agree (left.seekTo literal) (right.seekTo literal) := by
  unfold Reader.seekTo
  split
  rename_i search after result
  obtain ⟨other, same, alike⟩ := (alike.seekPast literal).follow result
  rw [same]
  by_cases found : search.found = true
  · simp only [found, if_true]
    exact ⟨rfl, alike.backup literal.length⟩
  · simp only [found, Bool.false_eq_true, if_false]
    exact ⟨rfl, alike⟩

end Reader

/-! ### The lexers -/

namespace Lexer

open Reader (Agree Alike)

variable {left right : Reader}

theorem alike_comment (alike : Alike left right) : Agree (comment left) (comment right) := by
  unfold comment
  split
  · rename_i inside opened
    obtain ⟨other, same, alike⟩ := (alike.acceptLiteral ['/', '/']).follow opened
    rw [same]
    exact ⟨rfl, (alike.acceptRunFrom _ #[]).2⟩
  · rename_i after missed
    obtain ⟨other, same, alike⟩ := (alike.acceptLiteral ['/', '/']).follow missed
    rw [same]
    simp only
    split
    · rename_i inside opened
      obtain ⟨other, same, alike⟩ := (alike.acceptLiteral ['/', '*']).follow opened
      rw [same]
      obtain ⟨search, alike⟩ := alike.seekPast ['*', '/']
      exact ⟨congrArg (some ·.found) search, alike⟩
    · rename_i last absent
      obtain ⟨other, same, alike⟩ := (alike.acceptLiteral ['/', '*']).follow absent
      rw [same]
      exact ⟨rfl, alike⟩

namespace Snippet

theorem alike_number (alike : Alike left right) : Alike (number left) (number right) := by
  unfold number
  split
  · rename_i after marked
    obtain ⟨other, same, alike⟩ := (alike.acceptLiteral ['0', 'x']).follow marked
    rw [same]
    exact (alike.acceptRunFrom _ #[]).2
  · rename_i after plain
    obtain ⟨other, same, alike⟩ := (alike.acceptLiteral ['0', 'x']).follow plain
    rw [same]
    have whole : Alike (after.acceptRun digits).2 (other.acceptRun digits).2 :=
      (alike.acceptRunFrom _ #[]).2
    have pointed : Agree ((after.acceptRun digits).2.accept (.single '.'))
        ((other.acceptRun digits).2.accept (.single '.')) :=
      (whole.acceptWhen _).map Run.succeeded
    simp only
    split
    · rename_i point found
      obtain ⟨other, same, alike⟩ := pointed.follow found
      rw [same]
      exact (alike.acceptRunFrom _ #[]).2
    · rename_i last absent
      obtain ⟨other, same, alike⟩ := pointed.follow absent
      rw [same]
      exact alike

theorem alike_stringRest (alike : Alike left right) :
    Agree (stringRest left) (stringRest right) := by
  have step {left right : Reader} (alike : Alike left right) :
      Agree (left.skipUntil stringStops).2.next (right.skipUntil stringStops).2.next :=
    Alike.next (alike.acceptRunFrom _ #[]).2
  fun_induction stringRest left generalizing right with
  | case1 left after taken =>
      obtain ⟨other, same, alike⟩ := (step alike).follow taken
      rw [stringRest_eq, same]
      exact ⟨rfl, alike⟩
  | case2 left after taken =>
      obtain ⟨other, same, alike⟩ := (step alike).follow taken
      rw [stringRest_eq, same]
      exact ⟨rfl, alike⟩
  | case3 left after taken _ ih =>
      obtain ⟨other, same, alike⟩ := (step alike).follow taken
      rw [stringRest_eq right, same]
      exact ih alike.next.2
  | case4 left rune after taken closes escapes =>
      obtain ⟨other, same, alike⟩ := (step alike).follow taken
      rw [stringRest_eq, same]
      simp only [closes, escapes, if_false]
      exact ⟨rfl, alike⟩

theorem alike_scan (rune : Char) (alike : Alike left right) :
    Agree (scan rune left) (scan rune right) := by
  unfold scan
  split
  · rename_i after result
    obtain ⟨other, same, alike⟩ := (alike_comment alike).follow result
    rw [same]
    exact ⟨rfl, alike⟩
  · rename_i after result
    obtain ⟨other, same, alike⟩ := (alike_comment alike).follow result
    rw [same]
    exact ⟨rfl, alike⟩
  · rename_i after result
    obtain ⟨other, same, alike⟩ := (alike_comment alike).follow result
    rw [same]
    by_cases begins : beginsWord rune = true
    · have words : Alike (word after) (word other) := (alike.acceptRunFrom _ #[]).2
      simp only [begins, if_true]
      rw [words.pending_eq]
      exact ⟨rfl, words⟩
    · simp only [begins, Bool.false_eq_true, if_false]
      by_cases digit : isAsciiDigit rune = true
      · simp only [digit, if_true]
        exact ⟨rfl, alike_number alike⟩
      · simp only [digit, Bool.false_eq_true, if_false]
        by_cases quote : rune = '"'
        · simp only [quote, if_true]
          exact alike_stringRest alike.next.2
        · simp only [quote, if_false]
          split
          · rename_i last found
            obtain ⟨other, same, alike⟩ := (alike.acceptAnyLiteral operators).follow found
            rw [same]
            exact ⟨rfl, alike⟩
          · rename_i last absent
            obtain ⟨other, same, alike⟩ := (alike.acceptAnyLiteral operators).follow absent
            rw [same]
            exact ⟨rfl, alike.next.2⟩

end Snippet

theorem Grammar.alike_tokens {Kind : Type} (grammar : Grammar Kind)
    (scans : ∀ {left right : Reader} rune, Alike left right →
      Agree (grammar.scan rune left) (grammar.scan rune right)) (alike : Alike left right) :
    Agree (grammar.tokens left) (grammar.tokens right) := by
  have looking {left right : Reader} (alike : Alike left right) :
      Agree (skipGap left).peek (skipGap right).peek :=
    (alike.acceptRunFrom _ #[]).2.ignore.peek
  fun_induction Grammar.tokens grammar left generalizing right with
  | case1 left after looked =>
      obtain ⟨other, same, alike⟩ := (looking alike).follow looked
      rw [tokens_eq, same]
      exact ⟨rfl, alike⟩
  | case2 left rune after looked scanned cut token holds others last result =>
      rename_i ih
      obtain ⟨other, same, alike⟩ := (looking alike).follow looked
      obtain ⟨kind, alike⟩ := scans rune alike
      obtain ⟨rest, finish⟩ := ih alike.ignore
      rw [result] at rest finish
      rw [tokens_eq, same]
      simp only
      rw [← alike.holdsToken_eq, if_pos holds, ← rest, ← kind, ← alike.emit.1]
      exact ⟨rfl, finish⟩
  | case3 left rune after looked scanned cut token =>
      rename_i empty
      obtain ⟨other, same, alike⟩ := (looking alike).follow looked
      obtain ⟨kind, alike⟩ := scans rune alike
      rw [tokens_eq, same]
      simp only
      rw [← alike.holdsToken_eq, if_neg empty, ← kind, ← alike.emit.1]
      exact ⟨rfl, alike.ignore⟩

end Lexer

/-! ### The commands -/

/-- The command asks for the recorded error, which may be another one, or come at another moment. -/
def Command.asksError : Command → Bool
  | .error => true
  | _ => false

namespace Reader

variable {left right : Reader}

theorem Agree.answer {Result : Type} {first second : Result × Reader} (agree : Agree first second)
    (view : Result → Answer) : Agree (view first.1, first.2) (view second.1, second.2) :=
  agree.map view

theorem Alike.perform (command : Command) (alike : Alike left right) :
    (command.asksError = false → (left.perform command).1 = (right.perform command).1) ∧
      Alike (left.perform command).2 (right.perform command).2 := by
  suffices agree : command.asksError = false →
      Agree (left.perform command) (right.perform command) by
    cases asks : command.asksError with
    | false =>
        obtain ⟨answer, after⟩ := agree asks
        exact ⟨fun _ => answer, after⟩
    | true =>
        cases command with
        | error =>
            refine ⟨?_, alike⟩
            intro other
            cases other
        | _ => cases asks
  intro asks
  cases command with
  | next => exact alike.next.answer .rune
  | peek => exact alike.peek.answer .rune
  | take count => exact (alike.take count).answer .runes
  | nth count => exact (alike.nth count).answer .rune
  | rest => exact alike.rest.answer .runes
  | count => exact alike.rest.answer fun runes => .count runes.length
  | takeWhile test => exact (alike.takeWhileFrom test #[]).answer .run
  | backup count => exact ⟨rfl, alike.backup count⟩
  | ignore => exact ⟨rfl, alike.ignore⟩
  | emit => exact alike.emit.answer .lexeme
  | error => cases asks
  | accept set => exact (alike.acceptWhen _).answer fun run => .verdict run.succeeded
  | acceptRun set => exact (alike.acceptRunFrom _ #[]).answer fun run => .count run.count
  | skipUntil set => exact (alike.acceptRunFrom _ #[]).answer fun run => .count run.count
  | acceptWhen test => exact (alike.acceptWhen test).answer .run
  | acceptRunWhen test => exact (alike.acceptRunFrom test #[]).answer .run
  | skipUntilWhen test => exact (alike.acceptRunFrom test.negate #[]).answer .run
  | acceptLiteral literal => exact (alike.acceptLiteral literal).answer .verdict
  | seekTo literal => exact (alike.seekTo literal).answer .search
  | seekPast literal => exact (alike.seekPast literal).answer .search
  | tokens =>
      exact (Lexer.Snippet.grammar.alike_tokens Lexer.Snippet.alike_scan alike).answer .tokens

theorem Alike.performAll (commands : List Command) (alike : Alike left right) :
    Alike (left.performAll commands).2 (right.performAll commands).2 := by
  induction commands generalizing left right with
  | nil => exact alike
  | cons command others ih => exact ih (alike.perform command).2

theorem Sound.peek_none {reader : Reader} (sound : reader.Sound)
    (steady : reader.intake.source.stalls = 0) (missed : reader.peek.1 = none) :
    reader.peek.2.error?.isSome = true := by
  have finished := (sound.next_steady steady).2.2
  unfold Reader.peek at missed ⊢
  split at missed
  · rename_i after taken
    rw [taken] at finished
    exact finished rfl
  · cases missed

end Reader

structure Indistinct (left right : Reader) : Prop where
  answers_eq : ∀ command : Command, command.asksError = false →
    (left.perform command).1 = (right.perform command).1
  position_eq : left.position = right.position
  tokenStart_eq : left.tokenStart = right.tokenStart
  history_eq : left.history = right.history
  pending_eq : left.pending = right.pending
  /-- Where no rune can be had, both know why. -/
  errors : ∀ command, command = .next ∨ command = .peek →
    (left.perform command).1 = .rune none →
      (left.perform command).2.error?.isSome = true ∧
      (right.perform command).2.error?.isSome = true

theorem chunking_invisible {left right : Source} (leftHonest : left.Honest)
    (rightHonest : right.Honest) (leftSteady : left.Steady) (rightSteady : right.Steady)
    (same : left.stream = right.stream) (leftSizing rightSizing : Sizing)
    (commands : List Command) :
    Indistinct ((Reader.start left leftSizing).performAll commands).2
      ((Reader.start right rightSizing).performAll commands).2 := by
  have begin : Reader.Alike (Reader.start left leftSizing) (Reader.start right rightSizing) :=
    ⟨Reader.sound_start leftHonest leftSizing, Reader.sound_start rightHonest rightSizing,
      Source.steady_iff.mp leftSteady, Source.steady_iff.mp rightSteady, rfl, rfl, same⟩
  have alike := begin.performAll commands
  generalize ((Reader.start left leftSizing).performAll commands).2 = first at alike ⊢
  generalize ((Reader.start right rightSizing).performAll commands).2 = second at alike ⊢
  refine ⟨fun command other => (alike.perform command).1 other, alike.position_eq,
    alike.tokenStart_eq, alike.history_eq, alike.pending_eq, ?_⟩
  intro command looking missed
  rcases looking with rfl | rfl
  · have answer : first.next.1 = none := Answer.rune.inj missed
    have other : second.next.1 = none := alike.next.1.symm.trans answer
    exact ⟨(alike.left_sound.next_steady alike.left_steady).2.2 answer,
      (alike.right_sound.next_steady alike.right_steady).2.2 other⟩
  · have answer : first.peek.1 = none := Answer.rune.inj missed
    have other : second.peek.1 = none := alike.peek.1.symm.trans answer
    exact ⟨alike.left_sound.peek_none alike.left_steady answer,
      alike.right_sound.peek_none alike.right_steady other⟩

/-- One source hands over whole pieces and ends; the other cuts a rune in two, hands over byte after
byte into the smallest of windows, and breaks. -/
theorem chunking_invisible_byte_by_byte :
    let left := Source.ofEvents [.data [0x61, 0xE2, 0x82, 0xAC, 0x0A, 0x62]]
    let right := Source.ofEvents [.data [0x61], .data [0xE2], .data [0x82], .data [0xAC],
      .data [0x0A], .data [0x62], .failure ⟨.connectionReset, none⟩]
    let commands := [.next, .seekTo ['b'], .emit, .peek, .tokens]
    left.Honest ∧ right.Honest ∧ left.Steady ∧ right.Steady ∧ left.stream = right.stream ∧
      Indistinct ((Reader.start left ⟨64, 64⟩).performAll commands).2
        ((Reader.start right ⟨1, 1⟩).performAll commands).2 := by
  intro left right commands
  have leftHonest : left.Honest := by decide
  have rightHonest : right.Honest := by decide
  have leftSteady : left.Steady := by decide
  have rightSteady : right.Steady := by decide
  have same : left.stream = right.stream := by decide
  exact ⟨leftHonest, rightHonest, leftSteady, rightSteady, same,
    chunking_invisible leftHonest rightHonest leftSteady rightSteady same ⟨64, 64⟩ ⟨1, 1⟩ commands⟩

end RuneScan
