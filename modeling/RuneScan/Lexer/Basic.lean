import RuneScan.Reader.Accept
import RuneScan.Reader.Search

/-!
The loop of a lexer: skip a gap of whitespace, look at the rune that begins a token, consume that
token by the rules of a grammar, and cut it off.
-/

namespace RuneScan.Lexer

structure Token (Kind : Type) where
  kind : Kind
  lexeme : Lexeme
deriving DecidableEq, Repr

structure Grammar (Kind : Type) where
  scan : Char → Reader → Kind × Reader
  scan_within : ∀ rune reader, Reader.Within reader (scan rune reader).2

def skipGap (reader : Reader) : Reader :=
  (reader.acceptRunWhen (.ofClass Unicode.isWhitespace)).2.ignore

/-- The tokens up to where no rune can be had. Every token holds a byte, as the grammar is asked
only where there is a rune to consume; a grammar that left it unread would be asked no more. -/
def Grammar.tokens {Kind : Type} (grammar : Grammar Kind) (reader : Reader) :
    List (Token Kind) × Reader :=
  match _looked : (skipGap reader).peek with
  | (none, after) => ([], after)
  | (some rune, after) =>
      let scanned := grammar.scan rune after
      let cut := scanned.2.emit
      let token : Token Kind := ⟨scanned.1, cut.1⟩
      if _holds : scanned.2.intake.window.holdsToken then
        let (others, last) := grammar.tokens cut.2
        (token :: others, last)
      else
        ([token], cut.2)
termination_by reader.remaining
decreasing_by
  have gap := Reader.acceptRunFrom_remaining_le (.ofClass Unicode.isWhitespace) #[] reader
  have looking := (Reader.peek_within (skipGap reader)).span_le
  rw [_looked] at looking
  have scanning := (grammar.scan_within rune after).span_le
  change (grammar.scan rune after).2.remaining < reader.remaining
  exact Nat.lt_of_lt_of_le (Reader.remaining_lt_span _holds)
    (Nat.le_trans scanning (Nat.le_trans looking gap))

/-! ### Comments -/

/-- Consumes a comment, if one begins here: two slashes and the rest of the line without its
newline, or everything up to and with the first closing mark. Tells whether it is closed. -/
def comment (reader : Reader) : Option Bool × Reader :=
  match reader.acceptLiteral ['/', '/'] with
  | (true, inside) => (some true, (inside.skipUntil (.single '\n')).2)
  | (false, after) =>
      match after.acceptLiteral ['/', '*'] with
      | (true, inside) =>
          let (search, last) := inside.seekPast ['*', '/']
          (some search.found, last)
      | (false, last) => (none, last)

theorem comment_within (reader : Reader) : Reader.Within reader (comment reader).2 := by
  have line := Reader.acceptLiteral_within ['/', '/'] reader
  unfold comment
  split
  · rename_i inside result
    rw [result] at line
    exact line.trans (Reader.skipUntil_within _ inside)
  · rename_i after result
    rw [result] at line
    have block := Reader.acceptLiteral_within ['/', '*'] after
    split
    · rename_i inside opened
      rw [opened] at block
      exact (line.trans block).trans (Reader.seekPast_within _ inside)
    · rename_i last absent
      rw [absent] at block
      exact line.trans block

/-! ### Words -/

def beginsWord (rune : Char) : Bool :=
  Unicode.isAlphabetic rune || rune == '_'

def continuesWord (rune : Char) : Bool :=
  Unicode.isAlphanumeric rune || rune == '_'

theorem continuesWord_of_beginsWord {rune : Char} (begins : beginsWord rune = true) :
    continuesWord rune = true := by
  simp only [beginsWord, continuesWord, Unicode.isAlphanumeric, Bool.or_eq_true] at begins ⊢
  rcases begins with alphabetic | underscore
  · exact .inl (.inl alphabetic)
  · exact .inr underscore

def word (reader : Reader) : Reader :=
  (reader.acceptRunWhen (.ofClass continuesWord)).2

theorem word_within (reader : Reader) : Reader.Within reader (word reader) :=
  Reader.acceptRunFrom_within _ _ reader

end RuneScan.Lexer
