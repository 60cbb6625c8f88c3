import RuneScan.Lexer.Basic
import RuneScan.Text.Lossy

/-!
A listing of the tokens of a text in a C-like language, one in each line.
-/

namespace RuneScan.Lexer.Listing

inductive Kind where
  | comment
  | identifier
  | number
  | string
  | operator
  | punctuation
  | error
deriving DecidableEq, Repr

def Kind.name : Kind → String
  | .comment => "comment"
  | .identifier => "ident"
  | .number => "number"
  | .string => "string"
  | .operator => "operator"
  | .punctuation => "punct"
  | .error => "error"

def operators : List (List Char) :=
  [['=', '='], ['!', '='], ['<', '='], ['>', '='], ['&', '&'], ['|', '|'], ['-', '>']]

def continuesNumber (rune : Char) : Bool :=
  isAsciiAlphanumeric rune || rune == '.'

theorem continuesNumber_of_isAsciiDigit {rune : Char} (digit : isAsciiDigit rune = true) :
    continuesNumber rune = true := by
  simp only [continuesNumber, isAsciiAlphanumeric, digit, Bool.or_true, Bool.true_or]

/-- A string ends at the next quote of the kind that begins it. There are no escapes. -/
def string (quote : Char) (reader : Reader) : Kind × Reader :=
  let (search, after) := reader.next.2.seekPast [quote]
  (if search.found then .string else .error, after)

def scan (rune : Char) (reader : Reader) : Kind × Reader :=
  match comment reader with
  | (some true, after) => (.comment, after)
  | (some false, after) => (.error, after)
  | (none, after) =>
      if beginsWord rune then
        (.identifier, word after)
      else if isAsciiDigit rune then
        (.number, (after.acceptRunWhen (.ofClass continuesNumber)).2)
      else if rune = '"' ∨ rune = '\'' then
        string rune after
      else
        match after.acceptAnyLiteral operators with
        | (true, last) => (.operator, last)
        | (false, last) => (.punctuation, last.next.2)

theorem scan_within (rune : Char) (reader : Reader) :
    Reader.Within reader (scan rune reader).2 := by
  have commented := comment_within reader
  unfold scan
  split
  · rename_i after result
    rw [result] at commented
    exact commented
  · rename_i after result
    rw [result] at commented
    exact commented
  · rename_i after result
    rw [result] at commented
    apply commented.trans
    split
    · exact word_within after
    · split
      · exact Reader.acceptRunFrom_within _ _ after
      · split
        · exact (Reader.next_within after).trans (Reader.seekPast_within _ after.next.2)
        · have tried := Reader.acceptAnyLiteral_within operators after
          split
          · rename_i last found
            rw [found] at tried
            exact tried
          · rename_i last absent
            rw [absent] at tried
            exact tried.trans (Reader.next_within last)

def grammar : Grammar Kind := ⟨scan, scan_within⟩

def tokens (reader : Reader) : List (Token Kind) × Reader :=
  grammar.tokens reader

/-! ### Lines -/

def alignRight (width : Nat) (text : String) : String :=
  String.ofList (List.replicate (width - text.length) ' ') ++ text

def alignLeft (width : Nat) (text : String) : String :=
  text ++ String.ofList (List.replicate (width - text.length) ' ')

/-- The position in eight columns, the kind in ten, and the text to the end of the line. -/
def line (token : Token Kind) : String :=
  alignRight 8 token.lexeme.position.render ++ " " ++ alignLeft 10 token.kind.name ++ " " ++
    Text.lossy token.lexeme.text

/-- Small reads, so that long tokens show how the window grows. -/
def sizing : Sizing := ⟨64, 128⟩

structure Report where
  output : String
  failed : Bool
deriving DecidableEq, Repr

def Report.exitCode (report : Report) : UInt32 :=
  if report.failed then 1 else 0

def report (source : Source) : Report :=
  let (tokens, after) := tokens (.start source sizing)
  { output := String.join (tokens.map fun token => line token ++ "\n")
    failed := after.error?.any fun error => !error.isEndOfStream }

end RuneScan.Lexer.Listing
