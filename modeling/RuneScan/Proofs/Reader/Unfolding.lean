import RuneScan.Command

/-!
The loops of a reader, unfolded once. Each loop is defined with the reason why it ends, which stands
in the way of rewriting; these equations leave it out.
-/

namespace RuneScan

namespace Reader

theorem rest_eq (reader : Reader) : reader.rest =
    match reader.next with
    | (none, after) => ([], after)
    | (some rune, after) => (rune :: after.rest.1, after.rest.2) := by
  rw [rest]
  split
  · rename_i after taken
    rw [taken]
  · rename_i rune after taken
    rw [taken]

theorem takeWhileFrom_eq (test : RuneTest) (shown : Array Char) (reader : Reader) :
    reader.takeWhileFrom test shown =
      match reader.next with
      | (none, after) => (.empty, after)
      | (some rune, after) =>
          if test shown rune then
            let others := after.takeWhileFrom test (shown.push rune)
            (⟨rune :: others.1.accepted, others.1.rejected⟩, others.2)
          else
            (⟨[], some rune⟩, after) := by
  rw [takeWhileFrom]
  split
  · rename_i after taken
    rw [taken]
  · rename_i rune after taken
    rw [taken]

theorem acceptRunFrom_eq (test : RuneTest) (shown : Array Char) (reader : Reader) :
    reader.acceptRunFrom test shown =
      match reader.next with
      | (none, after) => (.empty, after)
      | (some rune, after) =>
          if test shown rune then
            let others := after.acceptRunFrom test (shown.push rune)
            (⟨rune :: others.1.accepted, others.1.rejected⟩, others.2)
          else
            (⟨[], some rune⟩, after.backup 1) := by
  rw [acceptRunFrom]
  split
  · rename_i after taken
    rw [taken]
  · rename_i rune after taken
    rw [taken]

theorem seekPast_eq (literal : List Char) (reader : Reader) : reader.seekPast literal =
    match reader.acceptLiteral literal with
    | (true, after) => (⟨literal.length, true⟩, after)
    | (false, after) =>
        match after.next with
        | (none, last) => (⟨0, false⟩, last)
        | (some _, last) =>
            let others := last.seekPast literal
            (⟨others.1.count + 1, others.1.found⟩, others.2) := by
  rw [seekPast]
  split
  · rename_i after found
    rw [found]
  · rename_i after missed
    rw [missed]
    simp only
    split
    · rename_i last taken
      rw [taken]
    · rename_i rune last taken
      rw [taken]

end Reader

namespace Lexer

theorem Snippet.stringRest_eq (reader : Reader) : stringRest reader =
    match (reader.skipUntil stringStops).2.next with
    | (none, after) => (.error, after)
    | (some rune, after) =>
        if rune = '"' then (.string, after)
        else if rune = '\\' then stringRest after.next.2
        else (.error, after) := by
  rw [stringRest]
  split
  · rename_i after taken
    rw [taken]
  · rename_i rune after taken
    rw [taken]

theorem Grammar.tokens_eq {Kind : Type} (grammar : Grammar Kind) (reader : Reader) :
    grammar.tokens reader =
      match (skipGap reader).peek with
      | (none, after) => ([], after)
      | (some rune, after) =>
          let scanned := grammar.scan rune after
          let token : Token Kind := ⟨scanned.1, scanned.2.emit.1⟩
          if scanned.2.intake.window.holdsToken then
            let others := grammar.tokens scanned.2.ignore
            (token :: others.1, others.2)
          else
            ([token], scanned.2.ignore) := by
  rw [tokens]
  split
  · rename_i after looked
    rw [looked]
  · rename_i rune after looked
    rw [looked]
    rfl

end Lexer
end RuneScan
