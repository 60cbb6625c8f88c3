import RuneScan.Lexer.Snippet
import RuneScan.Proofs.Lexer.Rules
import RuneScan.Proofs.Lexer.Spans
import RuneScan.Proofs.Text.Escapes
import RuneScan.Proofs.Utf8.Scalar

/-!
The lexical rules of the statement language, and that its lexer follows them. Each rule reads the text
to come and says what token begins it; what the lexer tries and undoes on the way does not show.
-/

namespace RuneScan

open Utf8 (runes)

namespace Lexer.Snippet

/-! ### The rules -/

def numberSpan (text : List Char) : Nat :=
  if ['0', 'x'] <+: text then
    2 + ((text.drop 2).takeWhile hexadecimalDigits.contains).length
  else
    let whole := (text.takeWhile decimalDigits.contains).length
    match text.drop whole with
    | '.' :: fraction => whole + (1 + (fraction.takeWhile decimalDigits.contains).length)
    | _ => whole

/-- What the text behind an opening quote makes of a string, and the number of runes that it takes up
of it. The string ends with the first quote that is not escaped, unless the line ends before it. -/
def stringSpan (body : List Char) : Kind × Nat :=
  match unescaped? '"' body, unescaped? '\n' body with
  | some quote, none => (.string, quote + 1)
  | some quote, some newline =>
      if quote < newline then (.string, quote + 1) else (.error, newline + 1)
  | none, some newline => (.error, newline + 1)
  | none, none => (.error, body.length)

def wordKind (word : List Char) : Kind :=
  if String.ofList word ∈ ["fn", "let", "return"] then .keyword else .identifier

def wordToken (text : List Char) : Kind × Nat :=
  (wordKind (wordFront text), (wordFront text).length)

def operatorToken (text : List Char) : Kind × Nat :=
  let table := ["->", "==", "=", "+", "-", "*", "/", "(", ")", "\x7b", "\x7d", ";", ","]
  match (table.map String.toList).find? (·.isPrefixOf text) with
  | some operator => (.punctuation, operator.length)
  | none => (.error, 1)

def token (rune : Char) (rest : List Char) : Kind × Nat :=
  match commentSpan? (rune :: rest) with
  | some (true, count) => (.comment, count)
  | some (false, count) => (.error, count)
  | none =>
      if Unicode.isAlphabetic rune ∨ rune = '_' then wordToken (rune :: rest)
      else if rune ∈ decimalDigits then (.number, numberSpan (rune :: rest))
      else if rune = '"' then ((stringSpan rest).1, 1 + (stringSpan rest).2)
      else operatorToken (rune :: rest)

theorem numberSpan_pos {rune : Char} (digit : rune ∈ decimalDigits) (rest : List Char) :
    0 < numberSpan (rune :: rest) := by
  have whole := takeWhile_pos (List.contains_iff_mem.mpr digit) rest
  unfold numberSpan
  split
  · omega
  · simp only
    split
    · omega
    · exact whole

theorem operatorToken_eq (text : List Char) : operatorToken text =
    match operators.find? (·.isPrefixOf text) with
    | some operator => (.punctuation, operator.length)
    | none => (.error, 1) := rfl

theorem operatorToken_pos (text : List Char) : 0 < (operatorToken text).2 := by
  rw [operatorToken_eq]
  split
  · rename_i operator found
    have some : ∀ operator ∈ operators, 0 < operator.length := by decide
    exact some operator (List.mem_of_find?_eq_some found)
  · exact Nat.zero_lt_one

theorem token_pos (rune : Char) (rest : List Char) : 0 < (token rune rest).2 := by
  unfold token
  split
  · rename_i count found
    exact commentSpan?_pos found
  · rename_i count found
    exact commentSpan?_pos found
  · split
    · rename_i begins
      exact wordFront_pos begins rest
    · split
      · rename_i digit
        exact numberSpan_pos digit rest
      · split
        · exact Nat.lt_of_lt_of_le Nat.zero_lt_one (Nat.le_add_right _ _)
        · exact operatorToken_pos _

def rules : Rules Kind :=
  ⟨token, token_pos⟩

/-! ### Words -/

theorem mem_keywords_iff (word : List Char) :
    word ∈ keywords ↔ String.ofList word ∈ ["fn", "let", "return"] := by
  have spelled : keywords = ["fn", "let", "return"].map String.toList := by decide
  rw [spelled, mem_map_toList_iff]

/-- A keyword is known by its bytes, as no replacement is part of one. -/
theorem isKeyword_iff (text : List UInt8) :
    isKeyword text = true ↔ (runes text).map Rune.char ∈ keywords := by
  have genuine : ∀ keyword ∈ keywords, Utf8.replacement ∉ keyword := by decide
  rw [isKeyword, List.any_eq_true]
  constructor
  · rintro ⟨keyword, member, same⟩
    rw [(Utf8.eq_encodeAll_iff (genuine keyword member)).mp (eq_of_beq same)]
    exact member
  · intro member
    exact ⟨_, member, beq_iff_eq.mpr ((Utf8.eq_encodeAll_iff (genuine _ member)).mpr rfl)⟩

theorem wordKind_eq (text : List UInt8) :
    wordKind ((runes text).map Rune.char) =
      if isKeyword text then Kind.keyword else .identifier := by
  unfold wordKind
  simp only [← mem_keywords_iff, ← isKeyword_iff]

/-! ### Strings -/

theorem stringSpan_shift {body rest : List Char} {count : Nat}
    (quote : unescaped? '"' body = (unescaped? '"' rest).map (count + ·))
    (newline : unescaped? '\n' body = (unescaped? '\n' rest).map (count + ·))
    (length : body.length = count + rest.length) :
    stringSpan body = ((stringSpan rest).1, count + (stringSpan rest).2) := by
  unfold stringSpan
  rw [quote, newline, length]
  cases unescaped? '"' rest with
  | none =>
      cases unescaped? '\n' rest with
      | none => rfl
      | some newline => rfl
  | some quote =>
      cases unescaped? '\n' rest with
      | none => rfl
      | some newline =>
          simp only [Option.map_some, Nat.add_lt_add_iff_left]
          split
          · rfl
          · rfl

theorem stringSpan_plain {plain : List Char}
    (ordinary : ∀ rune ∈ plain, stringStops.contains rune = false) (rest : List Char) :
    stringSpan (plain ++ rest) = ((stringSpan rest).1, plain.length + (stringSpan rest).2) := by
  have apart : ∀ rune ∈ plain, rune ≠ '"' ∧ rune ≠ '\\' ∧ rune ≠ '\n' := by
    intro rune member
    have passed := ordinary rune member
    refine ⟨?_, ?_, ?_⟩
    · rintro rfl
      cases passed
    · rintro rfl
      cases passed
    · rintro rfl
      cases passed
  apply stringSpan_shift
  · exact unescaped?_append (fun rune member => ⟨(apart rune member).2.1, (apart rune member).1⟩) rest
  · exact unescaped?_append (fun rune member => (apart rune member).2) rest
  · exact List.length_append

theorem stringSpan_escape (rune : Char) (rest : List Char) :
    stringSpan ('\\' :: rune :: rest) = ((stringSpan rest).1, 2 + (stringSpan rest).2) := by
  apply stringSpan_shift
  · exact unescaped?_backslash '"' rune rest
  · exact unescaped?_backslash '\n' rune rest
  · exact Nat.add_comm rest.length 2

theorem stringSpan_quote (rest : List Char) : stringSpan ('"' :: rest) = (.string, 1) := by
  have quote : unescaped? '"' ('"' :: rest) = some 0 := by
    rw [unescaped?_cons (by decide), if_pos rfl]
  have newline : unescaped? '\n' ('"' :: rest) = (unescaped? '\n' rest).map (· + 1) := by
    rw [unescaped?_cons (by decide), if_neg (by decide)]
  unfold stringSpan
  rw [quote, newline]
  cases unescaped? '\n' rest with
  | none => rfl
  | some newline => rfl

theorem stringSpan_newline (rest : List Char) : stringSpan ('\n' :: rest) = (.error, 1) := by
  have quote : unescaped? '"' ('\n' :: rest) = (unescaped? '"' rest).map (· + 1) := by
    rw [unescaped?_cons (by decide), if_neg (by decide)]
  have newline : unescaped? '\n' ('\n' :: rest) = some 0 := by
    rw [unescaped?_cons (by decide), if_pos rfl]
  unfold stringSpan
  rw [quote, newline]
  cases unescaped? '"' rest with
  | none => rfl
  | some quote => rfl

end Lexer.Snippet

open Lexer

namespace Reader

variable {reader : Reader}

/-! ### What the lexer consumes -/

theorem Ready.number (ready : reader.Ready) :
    Takes reader (Snippet.numberSpan reader.upcoming) (Snippet.number reader) := by
  unfold Snippet.number Snippet.numberSpan
  rw [contains_decimalDigits, contains_hexadecimalDigits]
  by_cases marked : ['0', 'x'] <+: reader.upcoming
  · obtain ⟨inside, same, takes⟩ := (ready.acceptLiteral_of_prefix marked).eq
    have further := (takes.ready.acceptRunWhen isAsciiHexDigit).2
    rw [takes.upcoming_eq] at further
    rw [same, if_pos marked]
    exact takes.trans further
  · obtain ⟨after, same, still⟩ := (ready.acceptLiteral_of_not_prefix marked).eq
    have run : Takes after (after.upcoming.takeWhile isAsciiDigit).length
        (after.acceptRun Snippet.digits).2 := (still.ready.acceptRunWhen isAsciiDigit).2
    have whole := still.trans run
    rw [still.same_upcoming, Nat.zero_add] at whole
    have point := whole.ready.accept (.single '.')
    rw [whole.upcoming_eq] at point
    rw [same, if_neg marked]
    simp only
    generalize (reader.upcoming.takeWhile isAsciiDigit).length = count at whole point ⊢
    have left := whole.upcoming_eq
    generalize reader.upcoming.drop count = rest at point left ⊢
    split
    · rename_i fraction
      obtain ⟨inside, pointed, dot⟩ := point.eq
      have run : Takes inside (inside.upcoming.takeWhile isAsciiDigit).length
          (inside.acceptRun Snippet.digits).2 := (dot.ready.acceptRunWhen isAsciiDigit).2
      rw [dot.upcoming_eq, left] at run
      rw [pointed]
      exact whole.trans (dot.trans run)
    · rename_i other
      have absent : rest.head?.any (RuneSet.single '.').contains = false := by
        cases rest with
        | nil => rfl
        | cons first fraction =>
            apply beq_eq_false_iff_ne.mpr
            rintro rfl
            exact other fraction rfl
      rw [absent] at point
      obtain ⟨last, pointless, still⟩ := point.eq
      rw [pointless]
      exact whole.trans still

structure Stretch (reader stopped : Reader) (plain rest : List Char) : Prop where
  takes : Takes reader plain.length stopped
  upcoming_eq : reader.upcoming = plain ++ rest
  rest_eq : stopped.upcoming = rest
  span_eq : Snippet.stringSpan reader.upcoming =
    ((Snippet.stringSpan rest).1, plain.length + (Snippet.stringSpan rest).2)
  stops : ∀ rune ∈ rest.head?, rune = '"' ∨ rune = '\\' ∨ rune = '\n'

theorem Ready.stretch (ready : reader.Ready) :
    ∃ plain rest, Stretch reader (reader.skipUntil Snippet.stringStops).2 plain rest := by
  have whole := List.takeWhile_append_dropWhile
    (p := fun rune => !Snippet.stringStops.contains rune) (l := reader.upcoming)
  have takes : Takes reader _ (reader.skipUntil Snippet.stringStops).2 :=
    (ready.acceptRunWhen fun rune => !Snippet.stringStops.contains rune).2
  have ordinary := List.all_eq_true.mp (List.all_takeWhile
    (p := fun rune => !Snippet.stringStops.contains rune) (l := reader.upcoming))
  have stop := List.head?_dropWhile_not
    (fun rune => !Snippet.stringStops.contains rune) reader.upcoming
  generalize reader.upcoming.takeWhile _ = plain at whole takes ordinary
  generalize reader.upcoming.dropWhile _ = rest at whole stop
  refine ⟨plain, rest, takes, whole.symm, ?_, ?_, ?_⟩
  · rw [takes.upcoming_eq, ← whole, List.drop_left]
  · rw [← whole]
    apply Snippet.stringSpan_plain
    intro rune member
    exact (Bool.not_eq_true' _).mp (ordinary rune member)
  · intro rune front
    rw [Option.mem_def] at front
    rw [front] at stop
    have member := (Bool.not_eq_false' _).mp stop
    simpa [Snippet.stringStops, RuneSet.contains] using member

/-- The rune behind a stretch, if there is one, is consumed. -/
theorem Stretch.next {stopped after : Reader} {plain rest : List Char} {answer : Option Char}
    (stretch : Stretch reader stopped plain rest) (taken : stopped.next = (answer, after)) :
    rest.head? = answer ∧ Takes reader (plain.length + 1) after ∧
      after.upcoming = rest.drop 1 := by
  obtain ⟨front, step⟩ := stretch.takes.ready.next
  rw [taken, stretch.rest_eq] at front
  rw [taken] at step
  refine ⟨front.symm, stretch.takes.trans step, ?_⟩
  rw [step.upcoming_eq, stretch.rest_eq]

theorem Ready.stringRest (ready : reader.Ready) :
    Yields reader (Snippet.stringSpan reader.upcoming).1 (Snippet.stringSpan reader.upcoming).2
      (Snippet.stringRest reader) := by
  fun_induction Snippet.stringRest reader with
  | case1 reader after taken =>
      obtain ⟨plain, rest, stretch⟩ := ready.stretch
      obtain ⟨front, takes, _⟩ := stretch.next taken
      rw [List.head?_eq_none_iff] at front
      subst front
      have length := congrArg List.length stretch.upcoming_eq
      rw [List.length_append, List.length_nil] at length
      rw [stretch.span_eq]
      exact ⟨rfl, takes.of_all (by omega) (by omega)⟩
  | case2 reader after taken =>
      obtain ⟨plain, rest, stretch⟩ := ready.stretch
      obtain ⟨front, takes, _⟩ := stretch.next taken
      obtain ⟨more, rfl⟩ := List.head?_eq_some_iff.mp front
      rw [stretch.span_eq, Snippet.stringSpan_quote]
      exact ⟨rfl, takes⟩
  | case3 reader after taken _ ih =>
      obtain ⟨plain, rest, stretch⟩ := ready.stretch
      obtain ⟨front, takes, left⟩ := stretch.next taken
      obtain ⟨more, rfl⟩ := List.head?_eq_some_iff.mp front
      have escaped := takes.ready.next.takes
      obtain ⟨kind, further⟩ := ih escaped.ready
      have whole := (takes.trans escaped).trans further
      rw [escaped.upcoming_eq, left] at kind whole
      rw [stretch.span_eq]
      cases more with
      | nil =>
          -- The backslash is the last rune of all, and there is none behind it to be consumed.
          have length := congrArg List.length stretch.upcoming_eq
          rw [List.length_append, List.length_singleton] at length
          exact ⟨kind, whole.of_all (by omega) (Nat.le_of_eq length)⟩
      | cons rune rest =>
          rw [Snippet.stringSpan_escape]
          refine ⟨kind, ?_⟩
          rw [Nat.add_assoc plain.length, Nat.add_assoc plain.length] at whole
          exact whole
  | case4 reader rune after taken plain ordinary =>
      obtain ⟨plain, rest, stretch⟩ := ready.stretch
      obtain ⟨front, takes, _⟩ := stretch.next taken
      obtain ⟨more, rfl⟩ := List.head?_eq_some_iff.mp front
      obtain rfl | rfl | rfl := stretch.stops rune rfl
      · contradiction
      · contradiction
      · rw [stretch.span_eq, Snippet.stringSpan_newline]
        exact ⟨rfl, takes⟩

theorem Ready.wordToken (ready : reader.Ready) (idle : reader.pending = []) :
    Yields reader (Snippet.wordToken reader.upcoming).1 (Snippet.wordToken reader.upcoming).2
      (if Snippet.isKeyword (Lexer.word reader).pending then .keyword else .identifier,
        Lexer.word reader) := by
  have takes := ready.word
  refine ⟨?_, takes⟩
  have spelled : (runes (Lexer.word reader).pending).map Rune.char =
      wordFront reader.upcoming := by
    rw [List.prefix_iff_eq_take.mp (wordFront_begins reader.upcoming), takes.passes.runes_eq, idle,
      Utf8.runes_nil, List.nil_append, List.map_take]
    rfl
  rw [Snippet.wordToken, ← spelled]
  exact (Snippet.wordKind_eq _).symm

end Reader

namespace Lexer.Snippet

theorem grammar_follows : grammar.Follows rules := by
  intro reader rune rest ready idle upcoming
  change reader.Yields (token rune rest).1 (token rune rest).2 (scan rune reader)
  unfold token scan
  rw [← upcoming]
  apply ready.commented
  intro after still
  have text := still.same_upcoming
  have empty := (still.passes.nil_eq ready.sound still.ready.sound).1.trans idle
  rw [← text]
  simp only [← beginsWord_iff, mem_decimalDigits_iff]
  by_cases begins : beginsWord rune = true
  · rw [if_pos begins, if_pos begins]
    exact still.ready.wordToken empty
  · rw [if_neg begins, if_neg begins]
    by_cases digit : isAsciiDigit rune = true
    · rw [if_pos digit, if_pos digit]
      exact ⟨rfl, still.ready.number⟩
    · rw [if_neg digit, if_neg digit]
      by_cases quote : rune = '"'
      · have opened := still.ready.next.takes
        have body := opened.ready.stringRest
        rw [opened.upcoming_eq, text, upcoming, List.drop_one, List.tail_cons] at body
        rw [if_pos quote, if_pos quote]
        exact ⟨body.answer_eq, opened.trans body.takes⟩
      · rw [if_neg quote, if_neg quote, operatorToken_eq]
        exact still.ready.operator operators Kind.punctuation Kind.error

end Lexer.Snippet

/-- Over every source that is ready at every read, the lexer of the statement language finds the tokens
of its rules. -/
theorem snippet_tokens_follow_rules {source : Source} (honest : source.Honest)
    (steady : source.Steady) {decoded : List Rune} (decodes : Utf8.Decodes source.stream decoded)
    (sizing : Sizing) : (Snippet.tokens (Reader.start source sizing)).1 =
      Snippet.rules.tokens source.stream [] decoded := by
  have begins := Reader.begins_start honest steady sizing
  rw [decodes.eq_runes]
  exact Snippet.grammar_follows.tokens_eq [] begins

/-- A string holds an escaped quote, a number is in base sixteen, and the mark of a comment cannot both
open and close it. The stream comes in pieces of at most four bytes and ends with a fault. -/
theorem snippet_tokens_follow_rules_open_comment :
    let source := Source.ofEvents [.data [0x66, 0x6E, 0x0A, 0x22], .data [0x61, 0x5C],
      .data [0x22, 0x22, 0x20, 0x30, 0x78], .data [0x31, 0x46, 0x3D, 0xC3], .data [0xA9, 0x20, 0x31, 0x2E, 0x35],
      .data [0x2F, 0x2A, 0x2F], .failure ⟨.connectionReset, none⟩]
    let decoded := runes source.stream
    let found := (Snippet.tokens (Reader.start source ⟨4, 4⟩)).1
    source.Honest ∧ source.Steady ∧ Utf8.Decodes source.stream decoded ∧
      found.map Token.kind =
        [.keyword, .string, .number, .punctuation, .identifier, .number, .error] ∧
      (found.map fun token => token.lexeme.text)[2]? = some [0x30, 0x78, 0x31, 0x46] ∧
      found = Snippet.rules.tokens source.stream [] decoded := by
  intro source decoded found
  have honest : source.Honest := by decide
  have steady : source.Steady := by decide
  have decodes : Utf8.Decodes source.stream decoded := Utf8.decodes_runes _
  have kinds : found.map Token.kind =
      [.keyword, .string, .number, .punctuation, .identifier, .number, .error] := by
    decide +kernel
  have digits : (found.map fun token => token.lexeme.text)[2]? = some [0x30, 0x78, 0x31, 0x46] := by
    decide +kernel
  exact ⟨honest, steady, decodes, kinds, digits,
    snippet_tokens_follow_rules honest steady decodes ⟨4, 4⟩⟩

end RuneScan
