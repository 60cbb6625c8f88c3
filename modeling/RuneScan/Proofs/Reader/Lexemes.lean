import RuneScan.Proofs.Reader.Operations

/-!
The lexemes that a client is handed. Every cut of a run of moves has a lexeme of its own, the pending
bytes with the position where they begin; a client is handed some of these, in order, and those of the
others are dropped.
-/

namespace RuneScan

namespace Reader

/-- The lexemes of the cuts, whether they are handed out or dropped. -/
def lexemesCut (reader : Reader) : List Move → List Lexeme
  | [] => []
  | .next :: others => reader.next.2.lexemesCut others
  | .backup count :: others => (reader.backup count).lexemesCut others
  | .cut :: others => ⟨reader.pending, reader.tokenStart⟩ :: reader.ignore.lexemesCut others

theorem lexemesCut_append (reader : Reader) (first second : List Move) :
    reader.lexemesCut (first ++ second) =
      reader.lexemesCut first ++ (reader.moveAll first).lexemesCut second := by
  induction first generalizing reader with
  | nil => rfl
  | cons move others ih =>
      cases move with
      | next => exact ih reader.next.2
      | backup count => exact ih (reader.backup count)
      | cut => exact congrArg (_ :: ·) (ih reader.ignore)

theorem Leads.sublist {before after : Reader} {moves : List Move} {texts : List (List UInt8)}
    (leads : Leads before moves texts after) {lexemes : List Lexeme} {others : List Move}
    (sublist : lexemes.Sublist (after.lexemesCut others)) :
    lexemes.Sublist (before.lexemesCut (moves ++ others)) := by
  rw [lexemesCut_append, leads.moveAll_eq]
  exact List.sublist_append_of_sublist_right sublist

end Reader

theorem Lexer.Grammar.lexemes_sublist {Kind : Type} (grammar : Grammar Kind)
    {scanMoves : Char → Reader → List Reader.Move}
    (scans : ∀ rune reader,
      Reader.Leads reader (scanMoves rune reader) [] (grammar.scan rune reader).2)
    (reader : Reader) : ((grammar.tokens reader).1.map Token.lexeme).Sublist
      (reader.lexemesCut (grammar.moves scanMoves reader)) := by
  fun_induction tokens grammar reader with
  | case1 reader after looked => exact List.nil_sublist _
  | case2 reader rune after looked scanned cut token holds others last result ih =>
      have looking := (skipGap_leads reader).trans (Reader.peek_leads (skipGap reader))
      have kept : (grammar.scan rune after).2.intake.window.holdsToken = true := holds
      rw [looked] at looking
      rw [result] at ih
      rw [moves_eq, looked]
      simp only [kept, if_true]
      apply looking.sublist
      apply (scans rune after).sublist
      exact ih.cons_cons _
  | case3 reader rune after looked scanned cut token empty =>
      have looking := (skipGap_leads reader).trans (Reader.peek_leads (skipGap reader))
      have bare : ¬(grammar.scan rune after).2.intake.window.holdsToken = true := empty
      rw [looked] at looking
      rw [moves_eq, looked]
      simp only [bare]
      apply looking.sublist
      apply (scans rune after).sublist
      exact List.Sublist.refl _

def Answer.lexemes : Answer → List Lexeme
  | .lexeme piece => [piece]
  | .tokens found => found.map Lexer.Token.lexeme
  | _ => []

namespace Reader

theorem perform_lexemes (reader : Reader) (command : Command) :
    (reader.perform command).1.lexemes.Sublist (reader.lexemesCut (reader.movesBy command)) := by
  cases command with
  | emit => exact List.Sublist.refl _
  | tokens =>
      exact Lexer.Snippet.grammar.lexemes_sublist Lexer.Snippet.scan_leads reader
  | _ => exact List.nil_sublist _

theorem performAll_lexemes (reader : Reader) (commands : List Command) :
    ((reader.performAll commands).1.flatMap Answer.lexemes).Sublist
      (reader.lexemesCut (reader.movesByAll commands)) := by
  induction commands generalizing reader with
  | nil => exact List.nil_sublist _
  | cons command others ih =>
      rw [movesByAll, lexemesCut_append, (perform_leads reader command).moveAll_eq]
      exact (perform_lexemes reader command).append (ih _)

end Reader
end RuneScan
