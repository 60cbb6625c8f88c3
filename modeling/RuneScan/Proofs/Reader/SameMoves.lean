import RuneScan.Proofs.Chunking
import RuneScan.Proofs.Reader.Operations

/-!
Readers alike make the same moves. What an operation does next depends on the answers it has had,
and these are the same; so two runs of the same commands differ at most in when the source is read.
-/

namespace RuneScan

namespace Reader

variable {left right : Reader}

/-! ### Runes, sets and tests -/

theorem Alike.peekMoves_eq (alike : Alike left right) : left.peekMoves = right.peekMoves := by
  unfold peekMoves
  rw [alike.next.1]

theorem Alike.takeMoves_eq (count : Nat) (alike : Alike left right) :
    takeMoves count left = takeMoves count right := by
  induction count generalizing left right with
  | zero => rfl
  | succ count ih =>
      unfold takeMoves
      cases taken : left.next with
      | mk answer after =>
          obtain ⟨other, same, further⟩ := alike.next.follow taken
          rw [same]
          cases answer with
          | none => rfl
          | some rune => exact congrArg (.next :: ·) (ih further)

theorem Alike.acceptWhenMoves_eq (test : RuneTest) (alike : Alike left right) :
    left.acceptWhenMoves test = right.acceptWhenMoves test := by
  unfold acceptWhenMoves
  rw [(alike.acceptWhen test).1]

theorem Alike.acceptRunFromMoves_eq (test : RuneTest) (shown : Array Char)
    (alike : Alike left right) :
    left.acceptRunFromMoves test shown = right.acceptRunFromMoves test shown := by
  unfold acceptRunFromMoves
  rw [(alike.acceptRunFrom test shown).1]

/-! ### Literals -/

theorem Alike.acceptLiteralMoves_eq (literal : List Char) (alike : Alike left right) :
    acceptLiteralMoves literal left = acceptLiteralMoves literal right := by
  induction literal generalizing left right with
  | nil => rfl
  | cons expected others ih =>
      unfold acceptLiteralMoves
      cases taken : left.next with
      | mk answer after =>
          obtain ⟨other, same, further⟩ := alike.next.follow taken
          rw [same]
          cases answer with
          | none => rfl
          | some rune => simp only [ih further, (further.acceptLiteral others).1]

theorem Alike.acceptAnyLiteralMoves_eq (literals : List (List Char)) (alike : Alike left right) :
    acceptAnyLiteralMoves literals left = acceptAnyLiteralMoves literals right := by
  induction literals generalizing left right with
  | nil => rfl
  | cons literal others ih =>
      unfold acceptAnyLiteralMoves
      rw [alike.acceptLiteralMoves_eq literal]
      cases result : left.acceptLiteral literal with
      | mk whole after =>
          obtain ⟨other, same, further⟩ := (alike.acceptLiteral literal).follow result
          rw [same]
          cases whole with
          | true => rfl
          | false => exact congrArg (_ ++ ·) (ih further)

theorem Alike.seekPastMoves_eq (literal : List Char) (alike : Alike left right) :
    left.seekPastMoves literal = right.seekPastMoves literal := by
  fun_induction Reader.seekPast literal left generalizing right with
  | case1 left after found =>
      obtain ⟨other, same, _⟩ := (alike.acceptLiteral literal).follow found
      rw [left.seekPastMoves_eq, right.seekPastMoves_eq, found, same,
        alike.acceptLiteralMoves_eq literal]
  | case2 left after missed last taken =>
      obtain ⟨other, same, further⟩ := (alike.acceptLiteral literal).follow missed
      obtain ⟨final, ended, _⟩ := further.next.follow taken
      rw [left.seekPastMoves_eq, right.seekPastMoves_eq, missed, same,
        alike.acceptLiteralMoves_eq literal]
      simp only [taken, ended]
  | case3 left after missed rune last taken search finish result ih =>
      obtain ⟨other, same, further⟩ := (alike.acceptLiteral literal).follow missed
      obtain ⟨final, passed, beyond⟩ := further.next.follow taken
      rw [left.seekPastMoves_eq, right.seekPastMoves_eq, missed, same,
        alike.acceptLiteralMoves_eq literal]
      simp only [taken, passed, ih beyond]

theorem Alike.seekToMoves_eq (literal : List Char) (alike : Alike left right) :
    left.seekToMoves literal = right.seekToMoves literal := by
  unfold seekToMoves
  rw [alike.seekPastMoves_eq literal, (alike.seekPast literal).1]

end Reader

/-! ### The lexers -/

namespace Lexer

open Reader (Alike Move)

variable {left right : Reader}

theorem commentMoves_eq (alike : Alike left right) : commentMoves left = commentMoves right := by
  unfold commentMoves
  rw [alike.acceptLiteralMoves_eq]
  cases opened : left.acceptLiteral ['/', '/'] with
  | mk whole after =>
      obtain ⟨other, same, further⟩ := (alike.acceptLiteral ['/', '/']).follow opened
      rw [same]
      cases whole with
      | true => exact congrArg (_ ++ ·) (further.acceptRunFromMoves_eq _ _)
      | false =>
          simp only [further.acceptLiteralMoves_eq]
          cases begun : after.acceptLiteral ['/', '*'] with
          | mk whole last =>
              obtain ⟨final, same, inside⟩ := (further.acceptLiteral ['/', '*']).follow begun
              rw [same]
              cases whole with
              | true => simp only [inside.seekPastMoves_eq]
              | false => rfl

namespace Snippet

theorem numberMoves_eq (alike : Alike left right) : numberMoves left = numberMoves right := by
  unfold numberMoves
  rw [alike.acceptLiteralMoves_eq]
  cases marked : left.acceptLiteral ['0', 'x'] with
  | mk whole after =>
      obtain ⟨other, same, further⟩ := (alike.acceptLiteral ['0', 'x']).follow marked
      rw [same]
      cases whole with
      | true => exact congrArg (_ ++ ·) (further.acceptRunFromMoves_eq _ _)
      | false =>
          have whole : Alike (after.acceptRun digits).2 (other.acceptRun digits).2 :=
            (further.acceptRunFrom _ #[]).2
          have pointed : Reader.Agree ((after.acceptRun digits).2.accept (.single '.'))
              ((other.acceptRun digits).2.accept (.single '.')) :=
            (whole.acceptWhen _).map Run.succeeded
          simp only [further.acceptRunFromMoves_eq, whole.acceptWhenMoves_eq]
          cases found : (after.acceptRun digits).2.accept (.single '.') with
          | mk holds point =>
              obtain ⟨final, same, beyond⟩ := pointed.follow found
              rw [same]
              cases holds with
              | true => simp only [beyond.acceptRunFromMoves_eq]
              | false => rfl

theorem stringRestMoves_alike (alike : Alike left right) :
    stringRestMoves left = stringRestMoves right := by
  have step {left right : Reader} (alike : Alike left right) :
      Reader.Agree (left.skipUntil stringStops).2.next (right.skipUntil stringStops).2.next :=
    Alike.next (alike.acceptRunFrom _ #[]).2
  fun_induction stringRest left generalizing right with
  | case1 left after taken =>
      obtain ⟨other, same, _⟩ := (step alike).follow taken
      rw [stringRestMoves_eq left, stringRestMoves_eq right, taken, same,
        alike.acceptRunFromMoves_eq]
  | case2 left after taken =>
      obtain ⟨other, same, _⟩ := (step alike).follow taken
      rw [stringRestMoves_eq left, stringRestMoves_eq right, taken, same,
        alike.acceptRunFromMoves_eq]
      rfl
  | case3 left after taken _ ih =>
      obtain ⟨other, same, further⟩ := (step alike).follow taken
      rw [stringRestMoves_eq left, stringRestMoves_eq right, taken, same,
        alike.acceptRunFromMoves_eq]
      simp only [ih further.next.2]
  | case4 left rune after taken closes escapes =>
      obtain ⟨other, same, _⟩ := (step alike).follow taken
      rw [stringRestMoves_eq left, stringRestMoves_eq right, taken, same,
        alike.acceptRunFromMoves_eq]
      simp only [closes, escapes, if_false]

theorem scanMoves_eq (rune : Char) (alike : Alike left right) :
    scanMoves rune left = scanMoves rune right := by
  unfold scanMoves
  rw [commentMoves_eq alike]
  cases result : comment left with
  | mk closed after =>
      obtain ⟨other, same, further⟩ := (alike_comment alike).follow result
      rw [same]
      cases closed with
      | some closed => rfl
      | none =>
          simp only [further.acceptRunFromMoves_eq, numberMoves_eq further,
            stringRestMoves_alike further.next.2, further.acceptAnyLiteralMoves_eq]
          cases found : after.acceptAnyLiteral operators with
          | mk taken last =>
              obtain ⟨final, same, _⟩ := (further.acceptAnyLiteral operators).follow found
              rw [same]
              cases taken with
              | true => rfl
              | false => rfl

end Snippet

theorem gapMoves_eq (alike : Alike left right) : gapMoves left = gapMoves right :=
  congrArg (· ++ [Move.cut]) (alike.acceptRunFromMoves_eq _ _)

theorem Grammar.moves_alike {Kind : Type} (grammar : Grammar Kind)
    {scanMoves : Char → Reader → List Move}
    (scans : ∀ {left right : Reader} rune, Alike left right →
      Reader.Agree (grammar.scan rune left) (grammar.scan rune right))
    (same : ∀ {left right : Reader} rune, Alike left right →
      scanMoves rune left = scanMoves rune right) (alike : Alike left right) :
    grammar.moves scanMoves left = grammar.moves scanMoves right := by
  have passing {left right : Reader} (alike : Alike left right) :
      Alike (skipGap left) (skipGap right) :=
    Alike.ignore (alike.acceptRunFrom _ #[]).2
  fun_induction Grammar.tokens grammar left generalizing right with
  | case1 left after looked =>
      obtain ⟨other, equal, further⟩ := (passing alike).peek.follow looked
      rw [grammar.moves_eq scanMoves left, grammar.moves_eq scanMoves right, looked, equal,
        gapMoves_eq alike, (passing alike).peekMoves_eq]
  | case2 left rune after looked scanned cut token holds others last result =>
      rename_i ih
      obtain ⟨other, equal, further⟩ := (passing alike).peek.follow looked
      have cut := (scans rune further).2
      have kept : (grammar.scan rune after).2.intake.window.holdsToken = true := holds
      have rest : grammar.moves scanMoves (grammar.scan rune after).2.ignore =
          grammar.moves scanMoves (grammar.scan rune other).2.ignore := ih cut.ignore
      rw [grammar.moves_eq scanMoves left, grammar.moves_eq scanMoves right, looked, equal,
        gapMoves_eq alike, (passing alike).peekMoves_eq]
      simp only [same rune further, ← cut.holdsToken_eq, kept, if_true, rest]
  | case3 left rune after looked scanned cut token =>
      rename_i empty
      obtain ⟨other, equal, further⟩ := (passing alike).peek.follow looked
      have cut := (scans rune further).2
      have bare : ¬(grammar.scan rune after).2.intake.window.holdsToken = true := empty
      rw [grammar.moves_eq scanMoves left, grammar.moves_eq scanMoves right, looked, equal,
        gapMoves_eq alike, (passing alike).peekMoves_eq]
      simp only [same rune further, ← cut.holdsToken_eq, bare, Bool.false_eq_true, if_false]

end Lexer

/-! ### The commands -/

theorem Reader.Alike.movesBy_eq {left right : Reader} (command : Command)
    (alike : Alike left right) : left.movesBy command = right.movesBy command := by
  cases command with
  | next => rfl
  | peek => exact alike.peekMoves_eq
  | take count => exact alike.takeMoves_eq count
  | nth count => exact alike.takeMoves_eq (count + 1)
  | rest => exact congrArg (pastMoves ·.length) alike.rest.1
  | count => exact congrArg (pastMoves ·.length) alike.rest.1
  | takeWhile test => exact congrArg (pastMoves ·.count) (alike.takeWhileFrom test #[]).1
  | backup count => rfl
  | ignore => rfl
  | emit => rfl
  | error => rfl
  | accept set => exact alike.acceptWhenMoves_eq _
  | acceptRun set => exact alike.acceptRunFromMoves_eq _ _
  | skipUntil set => exact alike.acceptRunFromMoves_eq _ _
  | acceptWhen test => exact alike.acceptWhenMoves_eq test
  | acceptRunWhen test => exact alike.acceptRunFromMoves_eq test _
  | skipUntilWhen test => exact alike.acceptRunFromMoves_eq test.negate _
  | acceptLiteral literal => exact alike.acceptLiteralMoves_eq literal
  | seekTo literal => exact alike.seekToMoves_eq literal
  | seekPast literal => exact alike.seekPastMoves_eq literal
  | tokens =>
      exact Lexer.Snippet.grammar.moves_alike Lexer.Snippet.alike_scan
        Lexer.Snippet.scanMoves_eq alike

end RuneScan
