import RuneScan.Lexer.Basic
import RuneScan.Proofs.PositionLaw
import RuneScan.Proofs.Reader.Steady
import RuneScan.Proofs.Reader.Unfolding

/-!
Lexical rules, as functions of the text alone: of what kind the token is that a text begins with, and
how many runes it has. They fix the tokens of a stream, gaps of whitespace in between. A grammar that
follows the rules finds these tokens, over every source that is ready at every read.
-/

namespace RuneScan

open Utf8 (runes widths)

namespace Lexer

variable {Kind : Type}

/-! ### Tokens by rules -/

/-- The kind of the token that begins with a rune, by the text behind that rune, and the number of the
token's runes. -/
structure Rules (Kind : Type) where
  token : Char → List Char → Kind × Nat
  positive : ∀ rune rest, 0 < (token rune rest).2

/-- The runes `inside`, cut off from a stream behind the runes `before`. -/
def lexemeAt (stream : List UInt8) (before inside : List Rune) : Lexeme :=
  ⟨(stream.drop (widths before)).take (widths inside), .after (before.map Rune.char)⟩

def isBlank (rune : Rune) : Bool :=
  Unicode.isWhitespace rune.char

/-- The tokens of a stream, where the runes `rest` are left of it behind the runes `before`. -/
def Rules.tokens (rules : Rules Kind) (stream : List UInt8) (before rest : List Rune) :
    List (Token Kind) :=
  match _front : rest.dropWhile isBlank with
  | [] => []
  | rune :: others =>
      let found := rules.token rune.char (others.map Rune.char)
      let past := before ++ rest.takeWhile isBlank
      let inside := (rune :: others).take found.2
      ⟨found.1, lexemeAt stream past inside⟩ ::
        rules.tokens stream (past ++ inside) ((rune :: others).drop found.2)
termination_by rest.length
decreasing_by
  have positive := rules.positive rune.char (others.map Rune.char)
  have left := (List.dropWhile_suffix isBlank (l := rest)).length_le
  rw [_front] at left
  rw [List.length_drop]
  simp only [List.length_cons] at left ⊢
  omega

theorem Rules.tokens_eq (rules : Rules Kind) (stream : List UInt8) (before rest : List Rune) :
    rules.tokens stream before rest =
      match rest.dropWhile isBlank with
      | [] => []
      | rune :: others =>
          let found := rules.token rune.char (others.map Rune.char)
          let past := before ++ rest.takeWhile isBlank
          let inside := (rune :: others).take found.2
          ⟨found.1, lexemeAt stream past inside⟩ ::
            rules.tokens stream (past ++ inside) ((rune :: others).drop found.2) := by
  rw [tokens]
  split
  · rename_i front
    rw [front]
  · rename_i rune others front
    rw [front]

end Lexer

open Lexer

namespace Reader

variable {stream : List UInt8} {before : List Rune} {reader after : Reader} {count : Nat}

structure Begins (stream : List UInt8) (before : List Rune) (reader : Reader) : Prop where
  ready : reader.Ready
  idle : reader.pending = []
  coming_eq : reader.coming = stream.drop (widths before)
  tokenStart_eq : reader.tokenStart = .after (before.map Rune.char)

theorem begins_start {source : Source} (honest : source.Honest) (steady : source.Steady)
    (sizing : Sizing) : Begins source.stream [] (start source sizing) :=
  ⟨⟨sound_start honest sizing, Source.steady_iff.mp steady⟩, rfl, rfl, rfl⟩

theorem Begins.cut (begins : Begins stream before reader) (takes : Takes reader count after) :
    after.emit.1 = lexemeAt stream before ((runes reader.coming).take count) ∧
      Begins stream (before ++ (runes reader.coming).take count) after.emit.2 := by
  have text := takes.passes.pending_eq
  have left := takes.passes.coming_eq
  have position := takes.passes.position_eq begins.ready.sound takes.ready.sound
  have start := begins.ready.sound.position_eq
  rw [begins.idle, Utf8.runes_nil] at start
  rw [begins.idle, List.nil_append] at text
  rw [start, begins.tokenStart_eq, Position.past_nil, Position.past_after, ← List.map_append]
    at position
  generalize (runes reader.coming).take count = inside at text left position takes
  constructor
  · change Lexeme.mk after.pending after.tokenStart = _
    rw [text, takes.passes.tokenStart_eq, begins.tokenStart_eq, begins.coming_eq]
    rfl
  · constructor
    · exact takes.ready.of_later takes.ready.sound.ignore
    · exact pending_ignore after
    · change after.coming = _
      rw [left, begins.coming_eq, List.drop_drop, Utf8.widths_append]
    · exact position

theorem Begins.stays (begins : Begins stream before reader) (takes : Takes reader 0 after) :
    Begins stream before after := by
  obtain ⟨pending, coming, _⟩ :=
    takes.passes.nil_eq begins.ready.sound takes.ready.sound
  exact ⟨takes.ready, pending.trans begins.idle, coming.trans begins.coming_eq,
    takes.passes.tokenStart_eq.trans begins.tokenStart_eq⟩

theorem Ready.peek (ready : reader.Ready) : Yields reader reader.upcoming.head? 0 reader.peek := by
  obtain ⟨answer, taken, _⟩ := ready.next
  have later := ready.sound.next.1
  have finish := ready.sound.next.2
  unfold Reader.peek
  generalize reader.next = outcome at answer taken later finish ⊢
  rcases outcome with ⟨found, after⟩
  cases finish with
  | read rune _ passes _ =>
      have undone := (later.sound.backup 1).1
      exact ⟨answer, ready.takes (later.trans undone) (passes.backup later.sound)⟩
  | ended _ passes _ _ => exact ⟨answer, ready.takes later passes⟩
  | stalled _ passes _ _ _ => exact ⟨answer, ready.takes later passes⟩

theorem Begins.behind_gap (begins : Begins stream before reader) :
    Begins stream (before ++ (runes reader.coming).takeWhile isBlank) (skipGap reader) ∧
      runes (skipGap reader).coming = (runes reader.coming).dropWhile isBlank := by
  obtain ⟨_, takes⟩ := begins.ready.acceptRunWhen Unicode.isWhitespace
  have length : (reader.upcoming.takeWhile Unicode.isWhitespace).length =
      ((runes reader.coming).takeWhile isBlank).length := by
    unfold upcoming
    rw [List.takeWhile_map, List.length_map]
    rfl
  have blank := List.prefix_iff_eq_take.mp (List.takeWhile_prefix isBlank (l := runes reader.coming))
  have whole := List.takeWhile_append_dropWhile (p := isBlank) (l := runes reader.coming)
  rw [length] at takes
  have next := (begins.cut takes).2
  rw [← blank] at next
  refine ⟨next, ?_⟩
  have left := congrArg (List.drop ((runes reader.coming).takeWhile isBlank).length) whole
  rw [List.drop_left] at left
  rw [left]
  exact takes.runes_coming

/-- The rune that is looked at behind a gap is the first one that is no whitespace. -/
theorem Begins.look (begins : Begins stream before reader) {rune : Char}
    (looked : (skipGap reader).peek = (some rune, after)) :
    ∃ front others, front.char = rune ∧
      (runes reader.coming).dropWhile isBlank = front :: others ∧
      runes after.coming = front :: others ∧
      Begins stream (before ++ (runes reader.coming).takeWhile isBlank) after := by
  obtain ⟨gap, left⟩ := begins.behind_gap
  obtain ⟨answer, takes⟩ := gap.ready.peek
  rw [looked] at answer takes
  have still := takes.runes_coming
  have next := gap.stays takes
  rw [left, List.drop_zero] at still
  rw [upcoming, left] at answer
  rw [still]
  generalize (runes reader.coming).dropWhile isBlank = rest at answer ⊢
  cases rest with
  | nil => cases answer
  | cons front others =>
      exact ⟨front, others, (Option.some.inj answer).symm, rfl, rfl, next⟩

end Reader

namespace Lexer

open Reader (Begins Ready Yields)

variable {Kind : Type} {stream : List UInt8} {before : List Rune} {reader after : Reader}

/-- The grammar takes the tokens of the rules, where the source is ready and a token begins. -/
def Grammar.Follows (grammar : Grammar Kind) (rules : Rules Kind) : Prop :=
  ∀ (reader : Reader) (rune : Char) (rest : List Char), reader.Ready → reader.pending = [] →
    reader.upcoming = rune :: rest →
      Yields reader (rules.token rune rest).1 (rules.token rune rest).2 (grammar.scan rune reader)

structure Matches (rules : Rules Kind) (stream : List UInt8) (before : List Rune) (rune : Rune)
    (others : List Rune) (scanned : Kind × Reader) : Prop where
  kind_eq : scanned.1 = (rules.token rune.char (others.map Rune.char)).1
  lexeme_eq : scanned.2.emit.1 = lexemeAt stream before
    ((rune :: others).take (rules.token rune.char (others.map Rune.char)).2)
  begins : Begins stream (before ++
    (rune :: others).take (rules.token rune.char (others.map Rune.char)).2) scanned.2.emit.2
  left : runes scanned.2.emit.2.coming =
    (rune :: others).drop (rules.token rune.char (others.map Rune.char)).2
  holds : scanned.2.intake.window.holdsToken = true

theorem Grammar.Follows.scan_matches {grammar : Grammar Kind} {rules : Rules Kind}
    (follows : grammar.Follows rules) (begins : Begins stream before reader) {rune : Rune}
    {others : List Rune} (front : runes reader.coming = rune :: others) :
    Matches rules stream before rune others (grammar.scan rune.char reader) := by
  have upcoming : reader.upcoming = rune.char :: others.map Rune.char := by
    rw [Reader.upcoming, front, List.map_cons]
  obtain ⟨kind, takes⟩ := follows reader _ _ begins.ready begins.idle upcoming
  obtain ⟨lexeme, later⟩ := begins.cut takes
  have left := takes.runes_coming
  have pending := takes.passes.runes_eq
  rw [front] at lexeme later left pending
  refine ⟨kind, lexeme, later, left, ?_⟩
  rw [takes.ready.sound.intake.ordered.holdsToken_eq]
  apply decide_eq_true
  intro empty
  change (grammar.scan rune.char reader).2.pending = [] at empty
  obtain ⟨count, same⟩ := Nat.exists_eq_succ_of_ne_zero
    (Nat.ne_of_gt (rules.positive rune.char (others.map Rune.char)))
  rw [empty, begins.idle, Utf8.runes_nil, same, List.take_succ_cons] at pending
  cases pending

/-- Where a token begins, a grammar that follows the rules finds the tokens of the rules. -/
theorem Grammar.Follows.tokens_eq {grammar : Grammar Kind} {rules : Rules Kind}
    (follows : grammar.Follows rules) : ∀ before, Begins stream before reader →
      (grammar.tokens reader).1 = rules.tokens stream before (runes reader.coming) := by
  fun_induction Grammar.tokens grammar reader with
  | case1 reader after looked =>
      intro before begins
      obtain ⟨gap, left⟩ := begins.behind_gap
      have answer := gap.ready.peek.answer_eq
      rw [looked, Reader.upcoming, left] at answer
      rw [rules.tokens_eq]
      generalize (runes reader.coming).dropWhile isBlank = rest at answer ⊢
      cases rest with
      | nil => rfl
      | cons rune others => cases answer
  | case2 reader rune after looked scanned cut token holds others last result ih =>
      intro before begins
      obtain ⟨front, more, rfl, left, coming, start⟩ := begins.look looked
      have turn := follows.scan_matches start coming
      have rest := ih _ turn.begins
      have kind : scanned.1 = _ := turn.kind_eq
      have lexeme : cut.1 = _ := turn.lexeme_eq
      have following : runes cut.2.coming = _ := turn.left
      rw [result, following] at rest
      rw [rules.tokens_eq, left]
      simp only [token, kind, lexeme]
      exact congrArg (List.cons _) rest
  | case3 reader rune after looked scanned cut token empty =>
      intro before begins
      obtain ⟨front, more, rfl, _, coming, start⟩ := begins.look looked
      exact absurd (follows.scan_matches start coming).holds empty

end Lexer
end RuneScan
