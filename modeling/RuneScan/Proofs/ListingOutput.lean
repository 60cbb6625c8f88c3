import Mathlib.Data.List.Forall2
import Mathlib.Data.List.Infix
import RuneScan.Lexer.Listing
import RuneScan.Proofs.Coverage
import RuneScan.Proofs.Lexer.Rules
import RuneScan.Proofs.Lexer.Spans
import RuneScan.Proofs.Text.Substitution

/-!
The lexical rules of the listed language, the form of a printed row, and that a listing is printed by
them: one row for each token that the rules find in the text, in order. How the text comes and how the
window holds it does not show. Where every read succeeds the listing goes to the end, and succeeds.
-/

namespace RuneScan

open Utf8 (runes)

namespace Lexer.Listing

/-! ### The rules -/

/-- A string goes from a quote through the next one of its kind, or takes up the rest of the text if
there is none. -/
def stringToken (quote : Char) (body : List Char) : Kind × Nat :=
  if quote ∈ body then (.string, 1 + (body.idxOf quote + 1)) else (.error, 1 + body.length)

def operatorToken (text : List Char) : Kind × Nat :=
  if String.ofList (text.take 2) ∈ ["==", "!=", "<=", ">=", "&&", "||", "->"] then (.operator, 2)
  else (.punctuation, 1)

def figures : List Char :=
  latinLetters ++ decimalDigits ++ ['.']

def token (rune : Char) (rest : List Char) : Kind × Nat :=
  match commentSpan? (rune :: rest) with
  | some (true, count) => (.comment, count)
  | some (false, count) => (.error, count)
  | none =>
      if Unicode.isAlphabetic rune ∨ rune = '_' then
        (.identifier, (wordFront (rune :: rest)).length)
      else if rune ∈ decimalDigits then
        (.number, ((rune :: rest).takeWhile figures.contains).length)
      else if rune = '"' ∨ rune = '\'' then stringToken rune rest
      else operatorToken (rune :: rest)

theorem contains_figures : figures.contains = continuesNumber := by
  funext rune
  have point : ['.'].contains rune = (rune == '.') := by
    rw [List.contains_cons, List.contains_nil, Bool.or_false]
  rw [figures, List.contains_append, List.contains_append, contains_latinLetters,
    contains_decimalDigits, point]
  rfl

theorem stringToken_pos (quote : Char) (body : List Char) : 0 < (stringToken quote body).2 := by
  unfold stringToken
  split
  · exact Nat.add_pos_left Nat.zero_lt_one _
  · exact Nat.add_pos_left Nat.zero_lt_one _

theorem operatorToken_pos (text : List Char) : 0 < (operatorToken text).2 := by
  unfold operatorToken
  split
  · exact Nat.zero_lt_two
  · exact Nat.zero_lt_one

theorem token_pos (rune : Char) (rest : List Char) : 0 < (token rune rest).2 := by
  unfold token
  split
  · rename_i count found
    exact commentSpan?_pos found
  · rename_i count found
    exact commentSpan?_pos found
  · split
    · rename_i begins
      exact wordFront_pos begins rest
    · split
      · rename_i digit
        have figure : rune ∈ figures := List.mem_append_left _ (List.mem_append_right _ digit)
        exact takeWhile_pos (List.contains_iff_mem.mpr figure) rest
      · split
        · exact stringToken_pos rune rest
        · exact operatorToken_pos _

def rules : Rules Kind :=
  ⟨token, token_pos⟩

/-- As all operators have two runes, the first of them that the text begins with is its front. -/
theorem operatorToken_eq (text : List Char) : operatorToken text =
    match operators.find? (·.isPrefixOf text) with
    | some operator => (.operator, operator.length)
    | none => (.punctuation, 1) := by
  have spelled : operators = ["==", "!=", "<=", ">=", "&&", "||", "->"].map String.toList := by
    decide
  have front : String.ofList (text.take 2) ∈ ["==", "!=", "<=", ">=", "&&", "||", "->"] ↔
      text.take 2 ∈ operators := by
    rw [spelled, mem_map_toList_iff]
  have two : ∀ operator ∈ operators, operator.length = 2 := by decide
  unfold operatorToken
  cases found : operators.find? (·.isPrefixOf text) with
  | some operator =>
      have member := List.mem_of_find?_eq_some found
      have begins := List.find?_some (p := fun one : List Char => one.isPrefixOf text) found
      have same := List.prefix_iff_eq_take.mp (List.isPrefixOf_iff_prefix.mp begins)
      rw [two operator member] at same
      rw [if_pos (front.mpr (same ▸ member))]
      exact congrArg (Prod.mk Kind.operator) (two operator member).symm
  | none =>
      rw [if_neg]
      intro listed
      have absent := List.find?_eq_none.mp found _ (front.mp listed)
      exact absent (List.isPrefixOf_iff_prefix.mpr (List.take_prefix 2 text))

end Lexer.Listing

open Lexer

namespace Reader

variable {reader : Reader}

/-! ### What the lexer consumes -/

theorem Ready.quoted (ready : reader.Ready) {quote : Char} {body : List Char}
    (upcoming : reader.upcoming = quote :: body) :
    Yields reader (Listing.stringToken quote body).1 (Listing.stringToken quote body).2
      (Listing.string quote reader) := by
  have opened := ready.next.takes
  have left := opened.upcoming_eq
  rw [upcoming, List.drop_one, List.tail_cons] at left
  unfold Listing.string Listing.stringToken
  by_cases closed : quote ∈ body
  · have one := firstAt_idxOf closed
    rw [← left] at one
    obtain ⟨answer, further⟩ := opened.ready.seekPast_of_firstAt one
    rw [if_pos closed, ← left]
    refine ⟨?_, opened.trans further⟩
    simp only [answer, if_true]
  · have absent : ¬ [quote] <:+: reader.next.2.upcoming := by
      rw [left, List.singleton_infix_iff]
      exact closed
    obtain ⟨answer, further⟩ := opened.ready.seekPast_of_absent absent
    rw [if_neg closed, ← left]
    refine ⟨?_, opened.trans further⟩
    simp only [answer]
    rfl

end Reader

namespace Lexer.Listing

open Reader (Takes Yields)

theorem grammar_follows : grammar.Follows rules := by
  intro reader rune rest ready idle upcoming
  change Yields reader (token rune rest).1 (token rune rest).2 (scan rune reader)
  unfold token scan
  rw [← upcoming]
  apply ready.commented
  intro after still
  have text := still.same_upcoming
  rw [← text]
  simp only [← beginsWord_iff, mem_decimalDigits_iff, contains_figures]
  by_cases begins : beginsWord rune = true
  · rw [if_pos begins, if_pos begins]
    exact ⟨rfl, still.ready.word⟩
  · rw [if_neg begins, if_neg begins]
    by_cases digit : isAsciiDigit rune = true
    · rw [if_pos digit, if_pos digit]
      exact ⟨rfl, (still.ready.acceptRunWhen continuesNumber).2⟩
    · rw [if_neg digit, if_neg digit]
      by_cases quote : rune = '"' ∨ rune = '\''
      · rw [if_pos quote, if_pos quote]
        exact still.ready.quoted (text.trans upcoming)
      · rw [if_neg quote, if_neg quote, operatorToken_eq]
        exact still.ready.operator operators Kind.operator Kind.punctuation

/-! ### Rows -/

/-- Spaces that fill a field of some width beside a text, none if the text is wider. -/
def Pads (width : Nat) (text : String) (spaces : List Char) : Prop :=
  (∀ char ∈ spaces, char = ' ') ∧ spaces.length + text.length = max width text.length

def labels : List (Kind × String) :=
  [(.comment, "comment"), (.identifier, "ident"), (.number, "number"), (.string, "string"),
    (.operator, "operator"), (.punctuation, "punct"), (.error, "error")]

/-- A row shows a token: line and column at the right of eight columns, the label of the kind at the
left of ten and the text, with a space between one and the next. -/
def Shows (token : Token Kind) (row : String) : Prop :=
  let place := toString token.lexeme.position.line ++ ":" ++ toString token.lexeme.position.column
  ∃ label left right shown, (token.kind, label) ∈ labels ∧ Pads 8 place left ∧ Pads 10 label right ∧
    Text.ShownAs token.lexeme.text shown ∧
    row.toList = left ++ place.toList ++ ' ' :: (label.toList ++ right) ++ ' ' :: shown

def Prints (tokens : List (Token Kind)) (output : String) : Prop :=
  ∃ rows, List.Forall₂ Shows tokens rows ∧ output = String.join (rows.map (· ++ "\n"))

theorem mem_labels_iff {kind : Kind} {label : String} :
    (kind, label) ∈ labels ↔ label = kind.name := by
  cases kind <;> simp [labels, Kind.name]

theorem pads_iff {width : Nat} {text : String} {spaces : List Char} :
    Pads width text spaces ↔ spaces = List.replicate (width - text.length) ' ' := by
  unfold Pads
  rw [List.eq_replicate_iff]
  constructor
  · rintro ⟨blank, length⟩
    exact ⟨by omega, blank⟩
  · rintro ⟨length, blank⟩
    exact ⟨blank, by omega⟩

theorem toList_line (token : Token Kind) : (line token).toList =
    List.replicate (8 - token.lexeme.position.render.length) ' ' ++
      token.lexeme.position.render.toList ++
      ' ' :: (token.kind.name.toList ++ List.replicate (10 - token.kind.name.length) ' ') ++
      ' ' :: (Text.lossy token.lexeme.text).toList := by
  have space : " ".toList = [' '] := by decide
  simp only [line, alignRight, alignLeft, String.toList_append, String.toList_ofList, space,
    List.append_assoc, List.cons_append, List.nil_append]

theorem shows_iff {token : Token Kind} {row : String} : Shows token row ↔ row = line token := by
  constructor
  · rintro ⟨label, left, right, shown, named, first, second, third, same⟩
    obtain rfl := mem_labels_iff.mp named
    rw [pads_iff.mp first, pads_iff.mp second, Text.shownAs_iff.mp third] at same
    exact String.toList_injective (same.trans (toList_line token).symm)
  · rintro rfl
    exact ⟨_, _, _, _, mem_labels_iff.mpr rfl, pads_iff.mpr rfl, pads_iff.mpr rfl,
      Text.shownAs_iff.mpr rfl, toList_line token⟩

theorem rows_iff {tokens : List (Token Kind)} {rows : List String} :
    List.Forall₂ Shows tokens rows ↔ rows = tokens.map line := by
  have shows : Shows = fun token row => line token = row :=
    funext fun _ => funext fun _ => propext (shows_iff.trans eq_comm)
  rw [shows, ← List.forall₂_map_left_iff (R := Eq), List.forall₂_eq_eq_eq]
  exact eq_comm

/-- There is one way to print some tokens. -/
theorem prints_iff {tokens : List (Token Kind)} {output : String} :
    Prints tokens output ↔ output = String.join (tokens.map fun token => line token ++ "\n") := by
  have joined : (tokens.map line).map (· ++ "\n") = tokens.map fun token => line token ++ "\n" :=
    List.map_map
  rw [← joined]
  constructor
  · rintro ⟨rows, shown, printed⟩
    rw [rows_iff.mp shown] at printed
    exact printed
  · intro printed
    exact ⟨tokens.map line, rows_iff.mpr rfl, printed⟩

end Lexer.Listing

/-! ### The end of the input -/

namespace Reader

variable {source : Source} {sizing : Sizing} {texts : List (List UInt8)} {reader : Reader}

theorem Reaches.error_of_succeeds (reaches : Reaches (start source sizing) texts reader)
    (succeeds : source.Succeeds) {error : ReadError} (recorded : reader.error? = some error) :
    error = .endOfStream := by
  obtain ⟨moves, rfl, _⟩ := reaches
  obtain ⟨count, record⟩ := recorded_moveAll source sizing moves
  have first := record.error_eq.symm.trans recorded
  obtain ⟨outcome, member, ends⟩ := List.exists_of_findSome?_eq_some first
  obtain ⟨bytes, rfl⟩ := succeeds.outcomes member
  cases bytes with
  | nil => exact (Option.some.inj ends).symm
  | cons byte bytes => cases ends

/-- Where every read succeeds, no rune can be had only behind the last. -/
theorem RunsDry.exhausted (dry : RunsDry (start source sizing) reader)
    (reaches : Reaches (start source sizing) texts reader) (succeeds : source.Succeeds) :
    reader.isExhausted = true := by
  cases dry with
  | ended error recorded nothing =>
      obtain rfl := reaches.error_of_succeeds succeeds recorded
      have ended : reader.intake.hasEnded = true :=
        Option.isSome_iff_exists.mpr ⟨.endOfStream, recorded⟩
      have empty := Intake.coming_of_ended ended
      exact (isExhausted_iff recorded (empty.symm.trans nothing)).mpr rfl
  | stalled outcome _ last transient =>
      obtain ⟨bytes, rfl⟩ := succeeds.outcomes (List.mem_of_getLast? last)
      cases transient

end Reader

namespace Lexer.Listing

theorem tokens_exhausted {source : Source} (succeeds : source.Succeeds) (sizing : Sizing) :
    (tokens (Reader.start source sizing)).2.isExhausted = true := by
  have honest := succeeds.honest
  have advances : grammar.Advances := fun _ _ poised => onward_scan poised
  obtain ⟨⟨texts, reaches⟩, covering⟩ := advances.covering (Reader.certain_start honest sizing) rfl
    [] (Reader.stands_start honest sizing)
  exact covering.dry.exhausted reaches succeeds

theorem exitCode_report {source : Source} (succeeds : source.Succeeds) :
    (report source).exitCode = 0 := by
  have exhausted := tokens_exhausted succeeds sizing
  have ended : (tokens (Reader.start source sizing)).2.error? = some .endOfStream :=
    eq_of_beq (Bool.and_eq_true_iff.mp exhausted).1
  have failed : (report source).failed = false := by
    change Option.any _ (tokens (Reader.start source sizing)).2.error? = false
    rw [ended]
    rfl
  rw [Report.exitCode, failed]
  rfl

theorem tokens_eq_rules {source : Source} (succeeds : source.Succeeds) (sizing : Sizing) :
    (tokens (Reader.start source sizing)).1 =
      rules.tokens source.stream [] (runes source.stream) :=
  grammar_follows.tokens_eq [] (Reader.begins_start succeeds.honest succeeds.steady sizing)

end Lexer.Listing

/-- What a listing prints is a row for each token of the rules, and nothing else, and the run succeeds.
The pieces in which the text is read do not show, and no more do the sizes of reads and window, by which
the same tokens are found to the end of the input. -/
theorem listing_prints_rules {source : Source} (succeeds : source.Succeeds) {decoded : List Rune}
    (decodes : Utf8.Decodes source.stream decoded) :
    let listed := Listing.rules.tokens source.stream [] decoded
    (∀ output, Listing.Prints listed output ↔ output = (Listing.report source).output) ∧
      (Listing.report source).exitCode = 0 ∧
      ∀ sizing, (Listing.tokens (Reader.start source sizing)).1 = listed ∧
        (Listing.tokens (Reader.start source sizing)).2.isExhausted = true := by
  intro listed
  have found : ∀ sizing, (Listing.tokens (Reader.start source sizing)).1 = listed := by
    intro sizing
    rw [Listing.tokens_eq_rules succeeds sizing, ← decodes.eq_runes]
  have printed : (Listing.report source).output =
      String.join (listed.map fun token => Listing.line token ++ "\n") := by
    rw [← found Listing.sizing]
    rfl
  refine ⟨?_, Listing.exitCode_report succeeds, ?_⟩
  · intro output
    rw [printed]
    exact Listing.prints_iff
  · intro sizing
    exact ⟨found sizing, Listing.tokens_exhausted succeeds sizing⟩

/-- A rune breaks off in a comment, another rune comes in two pieces, and of two strings one is not
closed. -/
theorem listing_prints_rules_cut_rune :
    let source := Source.ofEvents [.data [0x2F], .data [0x2F, 0xE2], .data [0x82, 0x0A, 0xC3],
      .data [0xA9, 0x3C, 0x3D, 0x31, 0x2E], .data [0x35, 0x22, 0x61, 0x22, 0x28, 0x27]]
    let decoded := runes source.stream
    source.Succeeds ∧ Utf8.Decodes source.stream decoded ∧
      (Listing.report source).output =
        "     1:1 comment    //\uFFFD\n     2:1 ident      é\n     2:2 operator   <=\n" ++
          "     2:4 number     1.5\n     2:7 string     \"a\"\n    2:10 punct      (\n" ++
          "    2:11 error      '\n" ∧
      (∀ output, Listing.Prints (Listing.rules.tokens source.stream [] decoded) output ↔
        output = (Listing.report source).output) ∧
      (Listing.report source).exitCode = 0 ∧
      ∀ sizing, (Listing.tokens (Reader.start source sizing)).1 =
          Listing.rules.tokens source.stream [] decoded ∧
        (Listing.tokens (Reader.start source sizing)).2.isExhausted = true := by
  intro source decoded
  have succeeds : source.Succeeds := by decide
  have decodes : Utf8.Decodes source.stream decoded := Utf8.decodes_runes _
  refine ⟨succeeds, decodes, ?_, listing_prints_rules succeeds decodes⟩
  decide +kernel

end RuneScan
