import RuneScan.Command
import RuneScan.Proofs.Reader.Moves

/-!
The operations of a reader, move by move. Beside each operation stands the list of moves it makes,
which takes the same turns as the operation itself; the moves lead where the operation leads and cut
off what it cuts off. So what is counted or bounded over the moves of a run, also in the middle of an
operation, is counted or bounded over the commands of a client.
-/

namespace RuneScan

namespace Reader

structure Leads (before : Reader) (moves : List Move) (texts : List (List UInt8))
    (after : Reader) : Prop where
  moveAll_eq : before.moveAll moves = after
  cutTexts_eq : before.cutTexts moves = texts

theorem Leads.refl (reader : Reader) : Leads reader [] [] reader :=
  ⟨rfl, rfl⟩

theorem Leads.trans {first second third : Reader} {moves others : List Move}
    {texts more : List (List UInt8)} (earlier : Leads first moves texts second)
    (later : Leads second others more third) :
    Leads first (moves ++ others) (texts ++ more) third := by
  rcases earlier with ⟨rfl, rfl⟩
  rcases later with ⟨rfl, rfl⟩
  exact ⟨moveAll_append .., cutTexts_append ..⟩

theorem Leads.reaches {before after : Reader} {moves : List Move} {texts : List (List UInt8)}
    (leads : Leads before moves texts after) : Reaches before texts after :=
  ⟨moves, leads.moveAll_eq, leads.cutTexts_eq⟩

theorem leads_of_next {reader after : Reader} {rune : Option Char}
    (taken : reader.next = (rune, after)) : Leads reader [.next] [] after :=
  ⟨congrArg Prod.snd taken, rfl⟩

theorem next_leads (reader : Reader) : Leads reader [.next] [] reader.next.2 :=
  leads_of_next rfl

theorem backup_leads (reader : Reader) (count : Nat) :
    Leads reader [.backup count] [] (reader.backup count) :=
  ⟨rfl, rfl⟩

theorem ignore_leads (reader : Reader) : Leads reader [.cut] [reader.pending] reader.ignore :=
  ⟨rfl, rfl⟩

/-! ### Looking at runes and taking them -/

def peekMoves (reader : Reader) : List Move :=
  .next :: if reader.next.1.isSome then [.backup 1] else []

theorem peek_leads (reader : Reader) : Leads reader reader.peekMoves [] reader.peek.2 := by
  unfold peek peekMoves
  cases taken : reader.next with
  | mk answer after =>
      cases answer with
      | none => exact leads_of_next taken
      | some rune => exact (leads_of_next taken).trans (backup_leads after 1)

def takeMoves : Nat → Reader → List Move
  | 0, _ => []
  | count + 1, reader =>
      .next ::
        match reader.next with
        | (none, _) => []
        | (some _, after) => takeMoves count after

theorem take_leads (count : Nat) (reader : Reader) :
    Leads reader (takeMoves count reader) [] (reader.take count).2 := by
  induction count generalizing reader with
  | zero => exact .refl reader
  | succ count ih =>
      unfold take takeMoves
      cases taken : reader.next with
      | mk answer after =>
          cases answer with
          | none => exact leads_of_next taken
          | some rune => exact (leads_of_next taken).trans (ih after)

/-- The rune after some others is looked for as that many runes and one more are taken. -/
theorem nth_leads (count : Nat) (reader : Reader) :
    Leads reader (takeMoves (count + 1) reader) [] (reader.nth count).2 := by
  induction count generalizing reader with
  | zero =>
      unfold nth takeMoves
      cases taken : reader.next with
      | mk answer after =>
          cases answer with
          | none => exact leads_of_next taken
          | some rune => exact leads_of_next taken
  | succ count ih =>
      unfold nth takeMoves
      cases taken : reader.next with
      | mk answer after =>
          cases answer with
          | none => exact leads_of_next taken
          | some rune => exact (leads_of_next taken).trans (ih after)

def pastMoves (count : Nat) : List Move :=
  List.replicate (count + 1) .next

theorem rest_leads (reader : Reader) :
    Leads reader (pastMoves reader.rest.1.length) [] reader.rest.2 := by
  fun_induction rest reader with
  | case1 reader after taken => exact leads_of_next taken
  | case2 reader rune after taken runes last result ih =>
      rw [result] at ih
      exact (leads_of_next taken).trans ih

theorem takeWhileFrom_leads (test : RuneTest) (shown : Array Char) (reader : Reader) :
    Leads reader (pastMoves (reader.takeWhileFrom test shown).1.count) []
      (reader.takeWhileFrom test shown).2 := by
  fun_induction takeWhileFrom test shown reader with
  | case1 shown reader after taken => exact leads_of_next taken
  | case2 shown reader rune after taken holds run last result ih =>
      rw [result] at ih
      exact (leads_of_next taken).trans ih
  | case3 shown reader rune after taken fails => exact leads_of_next taken

/-! ### Accepting runes -/

def returnMoves (run : Run) : List Move :=
  if run.rejected.isSome then [.backup 1] else []

def acceptWhenMoves (test : RuneTest) (reader : Reader) : List Move :=
  .next :: returnMoves (reader.acceptWhen test).1

theorem acceptWhen_leads (test : RuneTest) (reader : Reader) :
    Leads reader (reader.acceptWhenMoves test) [] (reader.acceptWhen test).2 := by
  unfold acceptWhenMoves acceptWhen
  cases taken : reader.next with
  | mk answer after =>
      cases answer with
      | none => exact leads_of_next taken
      | some rune =>
          by_cases holds : test #[] rune = true
          · simp only [holds, if_true]
            exact leads_of_next taken
          · simp only [holds, if_false, Bool.false_eq_true]
            exact (leads_of_next taken).trans (backup_leads after 1)

def acceptRunFromMoves (test : RuneTest) (shown : Array Char) (reader : Reader) : List Move :=
  let run := (reader.acceptRunFrom test shown).1
  pastMoves run.count ++ returnMoves run

theorem acceptRunFrom_leads (test : RuneTest) (shown : Array Char) (reader : Reader) :
    Leads reader (reader.acceptRunFromMoves test shown) []
      (reader.acceptRunFrom test shown).2 := by
  unfold acceptRunFromMoves
  fun_induction acceptRunFrom test shown reader with
  | case1 shown reader after taken => exact leads_of_next taken
  | case2 shown reader rune after taken holds run last result ih =>
      rw [result] at ih
      exact (leads_of_next taken).trans ih
  | case3 shown reader rune after taken fails =>
      exact (leads_of_next taken).trans (backup_leads after 1)

/-! ### Literals -/

def acceptLiteralMoves : List Char → Reader → List Move
  | [], _ => []
  | expected :: rest, reader =>
      .next ::
        match reader.next with
        | (none, _) => []
        | (some rune, after) =>
            if rune = expected then
              acceptLiteralMoves rest after ++
                if (after.acceptLiteral rest).1 then [] else [.backup 1]
            else
              [.backup 1]

theorem acceptLiteral_leads (literal : List Char) (reader : Reader) :
    Leads reader (acceptLiteralMoves literal reader) [] (reader.acceptLiteral literal).2 := by
  induction literal generalizing reader with
  | nil => exact .refl reader
  | cons expected others ih =>
      unfold acceptLiteral acceptLiteralMoves
      cases taken : reader.next with
      | mk answer after =>
          cases answer with
          | none => exact leads_of_next taken
          | some rune =>
              have deeper := (leads_of_next taken).trans (ih after)
              by_cases same : rune = expected
              · simp only [same, if_true]
                cases result : after.acceptLiteral others with
                | mk whole last =>
                    rw [result] at deeper
                    cases whole with
                    | true => simpa using deeper
                    | false => exact deeper.trans (backup_leads last 1)
              · simp only [same, if_false]
                exact (leads_of_next taken).trans (backup_leads after 1)

def acceptAnyLiteralMoves : List (List Char) → Reader → List Move
  | [], _ => []
  | literal :: others, reader =>
      acceptLiteralMoves literal reader ++
        match reader.acceptLiteral literal with
        | (true, _) => []
        | (false, after) => acceptAnyLiteralMoves others after

theorem acceptAnyLiteral_leads (literals : List (List Char)) (reader : Reader) :
    Leads reader (acceptAnyLiteralMoves literals reader) []
      (reader.acceptAnyLiteral literals).2 := by
  induction literals generalizing reader with
  | nil => exact .refl reader
  | cons literal others ih =>
      have attempt := acceptLiteral_leads literal reader
      unfold acceptAnyLiteral acceptAnyLiteralMoves
      cases result : reader.acceptLiteral literal with
      | mk whole after =>
          rw [result] at attempt
          cases whole with
          | true => exact attempt.trans (.refl after)
          | false => exact attempt.trans (ih after)

def seekPastMoves (literal : List Char) (reader : Reader) : List Move :=
  acceptLiteralMoves literal reader ++
    match _missed : reader.acceptLiteral literal with
    | (true, _) => []
    | (false, after) =>
        .next ::
          match _taken : after.next with
          | (none, _) => []
          | (some _, last) => seekPastMoves literal last
termination_by reader.remaining
decreasing_by
  exact Nat.lt_of_lt_of_le (next_remaining_lt _taken) (acceptLiteral_missed _missed).1

theorem seekPastMoves_eq (literal : List Char) (reader : Reader) :
    reader.seekPastMoves literal = acceptLiteralMoves literal reader ++
      match reader.acceptLiteral literal with
      | (true, _) => []
      | (false, after) =>
          .next ::
            match after.next with
            | (none, _) => []
            | (some _, last) => last.seekPastMoves literal := by
  rw [seekPastMoves]
  split
  · rename_i after found
    rw [found]
  · rename_i after missed
    rw [missed]
    simp only
    split
    · rename_i last taken
      rw [taken]
    · rename_i rune last taken
      rw [taken]

theorem seekPast_leads (literal : List Char) (reader : Reader) :
    Leads reader (reader.seekPastMoves literal) [] (reader.seekPast literal).2 := by
  fun_induction seekPast literal reader with
  | case1 reader after found =>
      have attempt := acceptLiteral_leads literal reader
      rw [found] at attempt
      rw [seekPastMoves_eq, found]
      exact attempt.trans (.refl after)
  | case2 reader after missed last taken =>
      have attempt := acceptLiteral_leads literal reader
      rw [missed] at attempt
      simp only [seekPastMoves_eq, missed, taken]
      exact attempt.trans (leads_of_next taken)
  | case3 reader after missed rune last taken search finish result ih =>
      have attempt := acceptLiteral_leads literal reader
      rw [missed] at attempt
      rw [result] at ih
      rw [seekPastMoves_eq]
      simp only [missed, taken]
      exact attempt.trans ((leads_of_next taken).trans ih)

def seekToMoves (literal : List Char) (reader : Reader) : List Move :=
  reader.seekPastMoves literal ++
    if (reader.seekPast literal).1.found then [.backup literal.length] else []

theorem seekTo_leads (literal : List Char) (reader : Reader) :
    Leads reader (reader.seekToMoves literal) [] (reader.seekTo literal).2 := by
  have past := seekPast_leads literal reader
  unfold seekTo seekToMoves
  cases result : reader.seekPast literal with
  | mk search after =>
      rw [result] at past
      by_cases found : search.found = true
      · simp only [found, if_true]
        exact past.trans (backup_leads after literal.length)
      · simp only [found, if_false, Bool.false_eq_true]
        exact past.trans (.refl after)

end Reader

/-! ### Lexers -/

namespace Lexer

open Reader (Leads Move)

def commentMoves (reader : Reader) : List Move :=
  Reader.acceptLiteralMoves ['/', '/'] reader ++
    match reader.acceptLiteral ['/', '/'] with
    | (true, inside) =>
        inside.acceptRunFromMoves (RuneTest.ofClass (RuneSet.single '\n').contains).negate #[]
    | (false, after) =>
        Reader.acceptLiteralMoves ['/', '*'] after ++
          match after.acceptLiteral ['/', '*'] with
          | (true, inside) => inside.seekPastMoves ['*', '/']
          | (false, _) => []

theorem comment_leads (reader : Reader) :
    Leads reader (commentMoves reader) [] (comment reader).2 := by
  have line := Reader.acceptLiteral_leads ['/', '/'] reader
  unfold comment commentMoves
  cases result : reader.acceptLiteral ['/', '/'] with
  | mk whole after =>
      rw [result] at line
      cases whole with
      | true => exact line.trans (Reader.acceptRunFrom_leads _ _ after)
      | false =>
          have block := Reader.acceptLiteral_leads ['/', '*'] after
          simp only
          cases opened : after.acceptLiteral ['/', '*'] with
          | mk whole last =>
              rw [opened] at block
              cases whole with
              | true => exact line.trans (block.trans (Reader.seekPast_leads _ last))
              | false => exact line.trans (block.trans (.refl last))

namespace Snippet

def numberMoves (reader : Reader) : List Move :=
  Reader.acceptLiteralMoves ['0', 'x'] reader ++
    match reader.acceptLiteral ['0', 'x'] with
    | (true, after) => after.acceptRunFromMoves (.ofClass isAsciiHexDigit) #[]
    | (false, after) =>
        let whole := (after.acceptRun digits).2
        after.acceptRunFromMoves (.ofClass digits.contains) #[] ++
          (whole.acceptWhenMoves (.ofClass (RuneSet.single '.').contains) ++
            match whole.accept (.single '.') with
            | (true, point) => point.acceptRunFromMoves (.ofClass digits.contains) #[]
            | (false, _) => [])

theorem number_leads (reader : Reader) : Leads reader (numberMoves reader) [] (number reader) := by
  have marked := Reader.acceptLiteral_leads ['0', 'x'] reader
  unfold number numberMoves
  cases result : reader.acceptLiteral ['0', 'x'] with
  | mk taken after =>
      rw [result] at marked
      cases taken with
      | true => exact marked.trans (Reader.acceptRunFrom_leads _ _ after)
      | false =>
          have whole := Reader.acceptRunFrom_leads (.ofClass digits.contains) #[] after
          have pointed := Reader.acceptWhen_leads (.ofClass (RuneSet.single '.').contains)
            (after.acceptRun digits).2
          simp only
          cases found : (after.acceptRun digits).2.accept (.single '.') with
          | mk holds last =>
              rw [← (Prod.mk.inj found).2]
              cases holds with
              | true =>
                  exact marked.trans (whole.trans (pointed.trans
                    (Reader.acceptRunFrom_leads _ _ _)))
              | false => exact marked.trans (whole.trans (pointed.trans (.refl _)))

def stringRestMoves (reader : Reader) : List Move :=
  reader.acceptRunFromMoves (RuneTest.ofClass stringStops.contains).negate #[] ++
    .next ::
      match _taken : (reader.skipUntil stringStops).2.next with
      | (none, _) => []
      | (some rune, after) =>
          if rune = '"' then []
          else if rune = '\\' then .next :: stringRestMoves after.next.2
          else []
termination_by reader.remaining
decreasing_by
  exact Nat.lt_of_le_of_lt (Reader.next_remaining_le after)
    (Nat.lt_of_lt_of_le (Reader.next_remaining_lt _taken)
      (Reader.skipUntil_remaining_le stringStops reader))

theorem stringRestMoves_eq (reader : Reader) : stringRestMoves reader =
    reader.acceptRunFromMoves (RuneTest.ofClass stringStops.contains).negate #[] ++
      .next ::
        match (reader.skipUntil stringStops).2.next with
        | (none, _) => []
        | (some rune, after) =>
            if rune = '"' then []
            else if rune = '\\' then .next :: stringRestMoves after.next.2
            else [] := by
  rw [stringRestMoves]
  split
  · rename_i after taken
    rw [taken]
  · rename_i rune after taken
    rw [taken]

theorem stringRest_leads (reader : Reader) :
    Leads reader (stringRestMoves reader) [] (stringRest reader).2 := by
  have step {before after : Reader} {rune : Option Char}
      (taken : (before.skipUntil stringStops).2.next = (rune, after)) :
      Leads before (before.acceptRunFromMoves
        (RuneTest.ofClass stringStops.contains).negate #[] ++ [.next]) [] after :=
    (Reader.acceptRunFrom_leads _ _ before).trans (Reader.leads_of_next taken)
  fun_induction stringRest reader with
  | case1 reader after taken =>
      rw [stringRestMoves_eq, taken]
      exact step taken
  | case2 reader after taken =>
      rw [stringRestMoves_eq, taken]
      exact step taken
  | case3 reader after taken _ ih =>
      have whole := (step taken).trans ((Reader.next_leads after).trans ih)
      rw [List.append_assoc] at whole
      rw [stringRestMoves_eq, taken]
      exact whole
  | case4 reader rune after taken plain ordinary =>
      rw [stringRestMoves_eq, taken]
      simp only [plain, ordinary, if_false]
      exact step taken

def scanMoves (rune : Char) (reader : Reader) : List Move :=
  commentMoves reader ++
    match comment reader with
    | (some _, _) => []
    | (none, after) =>
        if beginsWord rune then
          after.acceptRunFromMoves (.ofClass continuesWord) #[]
        else if isAsciiDigit rune then
          numberMoves after
        else if rune = '"' then
          .next :: stringRestMoves after.next.2
        else
          Reader.acceptAnyLiteralMoves operators after ++
            match after.acceptAnyLiteral operators with
            | (true, _) => []
            | (false, _) => [.next]

theorem scan_leads (rune : Char) (reader : Reader) :
    Leads reader (scanMoves rune reader) [] (scan rune reader).2 := by
  have commented := comment_leads reader
  unfold scan scanMoves
  cases result : comment reader with
  | mk closed after =>
      rw [result] at commented
      cases closed with
      | some closed =>
          cases closed with
          | true => exact commented.trans (.refl after)
          | false => exact commented.trans (.refl after)
      | none =>
          apply commented.trans
          simp only
          split
          · exact Reader.acceptRunFrom_leads _ _ after
          · split
            · exact number_leads after
            · split
              · exact (Reader.next_leads after).trans (stringRest_leads after.next.2)
              · have tried := Reader.acceptAnyLiteral_leads operators after
                cases found : after.acceptAnyLiteral operators with
                | mk taken last =>
                    rw [found] at tried
                    cases taken with
                    | true => exact tried.trans (.refl last)
                    | false => exact tried.trans (Reader.next_leads last)

end Snippet

theorem Grammar.cut_remaining_lt {Kind : Type} (grammar : Grammar Kind) {reader after : Reader}
    {rune : Char} (looked : (skipGap reader).peek = (some rune, after))
    (holds : (grammar.scan rune after).2.intake.window.holdsToken = true) :
    (grammar.scan rune after).2.ignore.remaining < reader.remaining := by
  have gap := Reader.acceptRunFrom_remaining_le (.ofClass Unicode.isWhitespace) #[] reader
  have looking := (Reader.peek_within (skipGap reader)).span_le
  rw [looked] at looking
  have scanning := (grammar.scan_within rune after).span_le
  rw [Reader.ignore_remaining]
  exact Nat.lt_of_lt_of_le (Reader.remaining_lt_span holds)
    (Nat.le_trans scanning (Nat.le_trans looking gap))

/-- The texts that a lexer cuts off: gaps and tokens in turn. -/
def Grammar.cutTexts {Kind : Type} (grammar : Grammar Kind) (reader : Reader) :
    List (List UInt8) :=
  let gap := (reader.acceptRunWhen (.ofClass Unicode.isWhitespace)).2.pending
  match _looked : (skipGap reader).peek with
  | (none, _) => [gap]
  | (some rune, after) =>
      let scanned := (grammar.scan rune after).2
      if _holds : scanned.intake.window.holdsToken then
        gap :: scanned.pending :: grammar.cutTexts scanned.ignore
      else
        [gap, scanned.pending]
termination_by reader.remaining
decreasing_by exact grammar.cut_remaining_lt _looked _holds

private theorem Grammar.cutTexts_eq {Kind : Type} (grammar : Grammar Kind) (reader : Reader) :
    grammar.cutTexts reader =
      let gap := (reader.acceptRunWhen (.ofClass Unicode.isWhitespace)).2.pending
      match (skipGap reader).peek with
      | (none, _) => [gap]
      | (some rune, after) =>
          let scanned := (grammar.scan rune after).2
          if scanned.intake.window.holdsToken then
            gap :: scanned.pending :: grammar.cutTexts scanned.ignore
          else
            [gap, scanned.pending] := by
  rw [cutTexts]
  split
  · rename_i after looked
    rw [looked]
  · rename_i rune after looked
    rw [looked]
    simp only [dite_eq_ite]

def gapMoves (reader : Reader) : List Move :=
  reader.acceptRunFromMoves (.ofClass Unicode.isWhitespace) #[] ++ [.cut]

theorem skipGap_leads (reader : Reader) : Leads reader (gapMoves reader)
    [(reader.acceptRunWhen (.ofClass Unicode.isWhitespace)).2.pending] (skipGap reader) :=
  (Reader.acceptRunFrom_leads _ _ reader).trans (Reader.ignore_leads _)

def Grammar.moves {Kind : Type} (grammar : Grammar Kind)
    (scanMoves : Char → Reader → List Move) (reader : Reader) : List Move :=
  gapMoves reader ++ (skipGap reader).peekMoves ++
    match _looked : (skipGap reader).peek with
    | (none, _) => []
    | (some rune, after) =>
        let scanned := (grammar.scan rune after).2
        scanMoves rune after ++ .cut ::
          if _holds : scanned.intake.window.holdsToken then
            grammar.moves scanMoves scanned.ignore
          else
            []
termination_by reader.remaining
decreasing_by exact grammar.cut_remaining_lt _looked _holds

theorem Grammar.moves_eq {Kind : Type} (grammar : Grammar Kind)
    (scanMoves : Char → Reader → List Move) (reader : Reader) :
    grammar.moves scanMoves reader = gapMoves reader ++ (skipGap reader).peekMoves ++
      match (skipGap reader).peek with
      | (none, _) => []
      | (some rune, after) =>
          let scanned := (grammar.scan rune after).2
          scanMoves rune after ++ .cut ::
            if scanned.intake.window.holdsToken then
              grammar.moves scanMoves scanned.ignore
            else
              [] := by
  rw [moves]
  split
  · rename_i after looked
    rw [looked]
  · rename_i rune after looked
    rw [looked]
    simp only [dite_eq_ite]

theorem Grammar.tokens_leads {Kind : Type} (grammar : Grammar Kind)
    {scanMoves : Char → Reader → List Move}
    (scans : ∀ rune reader, Leads reader (scanMoves rune reader) [] (grammar.scan rune reader).2)
    (reader : Reader) : Leads reader (grammar.moves scanMoves reader) (grammar.cutTexts reader)
      (grammar.tokens reader).2 := by
  fun_induction tokens grammar reader with
  | case1 reader after looked =>
      have looking := (skipGap_leads reader).trans (Reader.peek_leads (skipGap reader))
      rw [looked] at looking
      rw [cutTexts_eq, moves_eq, looked]
      exact looking.trans (.refl after)
  | case2 reader rune after looked scanned cut token holds others last result ih =>
      have looking := (skipGap_leads reader).trans (Reader.peek_leads (skipGap reader))
      rw [looked] at looking
      rw [result] at ih
      have kept : (grammar.scan rune after).2.intake.window.holdsToken = true := holds
      rw [cutTexts_eq, moves_eq, looked]
      simp only [kept, if_true]
      exact looking.trans ((scans rune after).trans ((Reader.ignore_leads _).trans ih))
  | case3 reader rune after looked scanned cut token empty =>
      have looking := (skipGap_leads reader).trans (Reader.peek_leads (skipGap reader))
      rw [looked] at looking
      have bare : ¬(grammar.scan rune after).2.intake.window.holdsToken = true := empty
      rw [cutTexts_eq, moves_eq, looked]
      simp only [bare]
      exact looking.trans ((scans rune after).trans (Reader.ignore_leads _))

end Lexer

/-! ### Commands -/

namespace Reader

def cutBy (reader : Reader) : Command → List (List UInt8)
  | .ignore => [reader.pending]
  | .emit => [reader.pending]
  | .tokens => Lexer.Snippet.grammar.cutTexts reader
  | _ => []

def cutByAll (reader : Reader) : List Command → List (List UInt8)
  | [] => []
  | command :: others => reader.cutBy command ++ (reader.perform command).2.cutByAll others

def movesBy (reader : Reader) : Command → List Move
  | .next => [.next]
  | .peek => reader.peekMoves
  | .take count => takeMoves count reader
  | .nth count => takeMoves (count + 1) reader
  | .rest => pastMoves reader.rest.1.length
  | .count => pastMoves reader.rest.1.length
  | .takeWhile test => pastMoves (reader.takeWhileFrom test #[]).1.count
  | .backup count => [.backup count]
  | .ignore => [.cut]
  | .emit => [.cut]
  | .error => []
  | .accept set => reader.acceptWhenMoves (.ofClass set.contains)
  | .acceptRun set => reader.acceptRunFromMoves (.ofClass set.contains) #[]
  | .skipUntil set => reader.acceptRunFromMoves (RuneTest.ofClass set.contains).negate #[]
  | .acceptWhen test => reader.acceptWhenMoves test
  | .acceptRunWhen test => reader.acceptRunFromMoves test #[]
  | .skipUntilWhen test => reader.acceptRunFromMoves test.negate #[]
  | .acceptLiteral literal => acceptLiteralMoves literal reader
  | .seekTo literal => reader.seekToMoves literal
  | .seekPast literal => reader.seekPastMoves literal
  | .tokens => Lexer.Snippet.grammar.moves Lexer.Snippet.scanMoves reader

def movesByAll (reader : Reader) : List Command → List Move
  | [] => []
  | command :: others => reader.movesBy command ++ (reader.perform command).2.movesByAll others

theorem perform_leads (reader : Reader) (command : Command) :
    Leads reader (reader.movesBy command) (reader.cutBy command) (reader.perform command).2 := by
  cases command with
  | next => exact next_leads reader
  | peek => exact peek_leads reader
  | take count => exact take_leads count reader
  | nth count => exact nth_leads count reader
  | rest => exact rest_leads reader
  | count => exact rest_leads reader
  | takeWhile test => exact takeWhileFrom_leads test #[] reader
  | backup count => exact backup_leads reader count
  | ignore => exact ignore_leads reader
  | emit => exact ignore_leads reader
  | error => exact .refl reader
  | accept set => exact acceptWhen_leads _ reader
  | acceptRun set => exact acceptRunFrom_leads _ _ reader
  | skipUntil set => exact acceptRunFrom_leads _ _ reader
  | acceptWhen test => exact acceptWhen_leads test reader
  | acceptRunWhen test => exact acceptRunFrom_leads test #[] reader
  | skipUntilWhen test => exact acceptRunFrom_leads test.negate #[] reader
  | acceptLiteral literal => exact acceptLiteral_leads literal reader
  | seekTo literal => exact seekTo_leads literal reader
  | seekPast literal => exact seekPast_leads literal reader
  | tokens => exact Lexer.Snippet.grammar.tokens_leads Lexer.Snippet.scan_leads reader

theorem performAll_leads (reader : Reader) (commands : List Command) :
    Leads reader (reader.movesByAll commands) (reader.cutByAll commands)
      (reader.performAll commands).2 := by
  induction commands generalizing reader with
  | nil => exact .refl reader
  | cons command others ih => exact (perform_leads reader command).trans (ih _)

theorem performAll_reaches (reader : Reader) (commands : List Command) :
    Reaches reader (reader.cutByAll commands) (reader.performAll commands).2 :=
  (performAll_leads reader commands).reaches

end Reader
end RuneScan
