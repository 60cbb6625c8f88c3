import RuneScan.Lexer.Basic
import RuneScan.Text.Lossy

/-!
Tokens of a small statement language: words and keywords, numbers, strings with escapes, comments
and operators. Anything else is an error token of one rune.
-/

namespace RuneScan.Lexer.Snippet

inductive Kind where
  | identifier
  | keyword
  | number
  | string
  | comment
  | punctuation
  | error
deriving DecidableEq, Repr

def Kind.name : Kind → String
  | .identifier => "Ident"
  | .keyword => "Keyword"
  | .number => "Number"
  | .string => "Str"
  | .comment => "Comment"
  | .punctuation => "Punct"
  | .error => "Error"

def keywords : List (List Char) :=
  [['f', 'n'], ['l', 'e', 't'], ['r', 'e', 't', 'u', 'r', 'n']]

/-- In the order in which they are tried, so that a longer one comes before those it begins with. -/
def operators : List (List Char) :=
  [['-', '>'], ['=', '='], ['='], ['+'], ['-'], ['*'], ['/'], ['('], [')'], ['\x7b'], ['\x7d'],
    [';'], [',']]

def isKeyword (text : List UInt8) : Bool :=
  keywords.any fun keyword => text == Utf8.encodeAll keyword

def digits : RuneSet := .between '0' '9'

def number (reader : Reader) : Reader :=
  match reader.acceptLiteral ['0', 'x'] with
  | (true, after) => (after.acceptRunWhen (.ofClass isAsciiHexDigit)).2
  | (false, after) =>
      match (after.acceptRun digits).2.accept (.single '.') with
      | (true, point) => (point.acceptRun digits).2
      | (false, last) => last

def stringStops : RuneSet := .ofList ['"', '\\', '\n']

/-- The rest of a string after its opening quote. The rune after a backslash is part of the string,
whatever it is. -/
def stringRest (reader : Reader) : Kind × Reader :=
  match _taken : (reader.skipUntil stringStops).2.next with
  | (none, after) => (.error, after)
  | (some rune, after) =>
      if rune = '"' then (.string, after)
      else if rune = '\\' then stringRest after.next.2
      else (.error, after)
termination_by reader.remaining
decreasing_by
  exact Nat.lt_of_le_of_lt (Reader.next_remaining_le after)
    (Nat.lt_of_lt_of_le (Reader.next_remaining_lt _taken)
      (Reader.skipUntil_remaining_le stringStops reader))

def scan (rune : Char) (reader : Reader) : Kind × Reader :=
  match comment reader with
  | (some true, after) => (.comment, after)
  | (some false, after) => (.error, after)
  | (none, after) =>
      if beginsWord rune then
        let last := word after
        (if isKeyword last.pending then .keyword else .identifier, last)
      else if isAsciiDigit rune then
        (.number, number after)
      else if rune = '"' then
        stringRest after.next.2
      else
        match after.acceptAnyLiteral operators with
        | (true, last) => (.punctuation, last)
        | (false, last) => (.error, last.next.2)

theorem number_within (reader : Reader) : Reader.Within reader (number reader) := by
  have marked := Reader.acceptLiteral_within ['0', 'x'] reader
  unfold number
  split
  · rename_i after result
    rw [result] at marked
    exact marked.trans (Reader.acceptRunFrom_within _ _ after)
  · rename_i after result
    rw [result] at marked
    have whole := marked.trans (Reader.acceptRun_within digits after)
    have pointed := Reader.accept_within (.single '.') (after.acceptRun digits).2
    split
    · rename_i point found
      rw [found] at pointed
      exact (whole.trans pointed).trans (Reader.acceptRun_within digits point)
    · rename_i last absent
      rw [absent] at pointed
      exact whole.trans pointed

theorem stringRest_within (reader : Reader) : Reader.Within reader (stringRest reader).2 := by
  fun_induction stringRest reader with
  | case1 reader after same =>
      have step := Reader.next_within (reader.skipUntil stringStops).2
      rw [same] at step
      exact (Reader.skipUntil_within stringStops reader).trans step
  | case2 reader after same =>
      have step := Reader.next_within (reader.skipUntil stringStops).2
      rw [same] at step
      exact (Reader.skipUntil_within stringStops reader).trans step
  | case3 reader after same _ ih =>
      have step := Reader.next_within (reader.skipUntil stringStops).2
      rw [same] at step
      exact (((Reader.skipUntil_within stringStops reader).trans step).trans
        (Reader.next_within after)).trans ih
  | case4 reader rune after same =>
      have step := Reader.next_within (reader.skipUntil stringStops).2
      rw [same] at step
      exact (Reader.skipUntil_within stringStops reader).trans step

theorem scan_within (rune : Char) (reader : Reader) :
    Reader.Within reader (scan rune reader).2 := by
  have commented := comment_within reader
  unfold scan
  split
  · rename_i after result
    rw [result] at commented
    exact commented
  · rename_i after result
    rw [result] at commented
    exact commented
  · rename_i after result
    rw [result] at commented
    apply commented.trans
    split
    · exact word_within after
    · split
      · exact number_within after
      · split
        · exact (Reader.next_within after).trans (stringRest_within after.next.2)
        · have tried := Reader.acceptAnyLiteral_within operators after
          split
          · rename_i last found
            rw [found] at tried
            exact tried
          · rename_i last absent
            rw [absent] at tried
            exact tried.trans (Reader.next_within last)

def grammar : Grammar Kind := ⟨scan, scan_within⟩

def tokens (reader : Reader) : List (Token Kind) × Reader :=
  grammar.tokens reader

def renderToken (token : Token Kind) : String :=
  token.kind.name ++ " " ++ token.lexeme.position.render ++ " `" ++
    Text.lossy token.lexeme.text ++ "`"

def render (tokens : List (Token Kind)) : String :=
  "\n".intercalate (tokens.map renderToken)

end RuneScan.Lexer.Snippet
