import RuneScan.Lexer.Snippet
import RuneScan.Reader.Accept
import RuneScan.Reader.Iterate
import RuneScan.Reader.Search

/-!
The operations of a reader as data, so that a run of them is a list of commands.
-/

namespace RuneScan

inductive Command where
  | next
  | peek
  | take (count : Nat)
  | nth (count : Nat)
  | rest
  | count
  | takeWhile (test : RuneTest)
  | backup (count : Nat)
  | ignore
  | emit
  | error
  | accept (set : RuneSet)
  | acceptRun (set : RuneSet)
  | skipUntil (set : RuneSet)
  | acceptWhen (test : RuneTest)
  | acceptRunWhen (test : RuneTest)
  | skipUntilWhen (test : RuneTest)
  | acceptLiteral (literal : List Char)
  | seekTo (literal : List Char)
  | seekPast (literal : List Char)
  | tokens

inductive Answer where
  | done
  | rune (rune : Option Char)
  | runes (runes : List Char)
  | count (count : Nat)
  | verdict (holds : Bool)
  | run (run : Run)
  | search (search : Search)
  | lexeme (lexeme : Lexeme)
  | error (error : Option ReadError)
  | tokens (tokens : List (Lexer.Token Lexer.Snippet.Kind))
deriving DecidableEq, Repr

namespace Reader

def perform (reader : Reader) : Command → Answer × Reader
  | .next => reader.next.map .rune id
  | .peek => reader.peek.map .rune id
  | .take count => (reader.take count).map .runes id
  | .nth count => (reader.nth count).map .rune id
  | .rest => reader.rest.map .runes id
  | .count => reader.rest.map (fun runes => .count runes.length) id
  | .takeWhile test => (reader.takeWhileFrom test #[]).map .run id
  | .backup count => (.done, reader.backup count)
  | .ignore => (.done, reader.ignore)
  | .emit => reader.emit.map .lexeme id
  | .error => (.error reader.error?, reader)
  | .accept set => (reader.accept set).map .verdict id
  | .acceptRun set => (reader.acceptRun set).map .count id
  | .skipUntil set => (reader.skipUntil set).map .count id
  | .acceptWhen test => (reader.acceptWhen test).map .run id
  | .acceptRunWhen test => (reader.acceptRunWhen test).map .run id
  | .skipUntilWhen test => (reader.skipUntilWhen test).map .run id
  | .acceptLiteral literal => (reader.acceptLiteral literal).map .verdict id
  | .seekTo literal => (reader.seekTo literal).map .search id
  | .seekPast literal => (reader.seekPast literal).map .search id
  | .tokens => (Lexer.Snippet.tokens reader).map .tokens id

def performAll (reader : Reader) : List Command → List Answer × Reader
  | [] => ([], reader)
  | command :: others =>
      let (answer, after) := reader.perform command
      let (answers, last) := performAll after others
      (answer :: answers, last)

end Reader
end RuneScan
