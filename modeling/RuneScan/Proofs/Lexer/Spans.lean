import Mathlib.Data.List.Basic
import RuneScan.Lexer.Basic
import RuneScan.Proofs.Reader.Steady

/-!
The spans of text that the tokens of a C-like language take up: comments and words. Over a source that
is ready at every read, the operations of a lexer consume these spans. The classes of runes that rules
go by are spelled out here, apart from the tests of the lexer, and shown to be the same.
-/

namespace RuneScan

namespace Lexer

/-- Whether a comment between marks is closed, and the number of its runes: it ends behind the first
closing mark that follows the opening one, or takes up all of the text if there is none. -/
def blockSpan (text : List Char) : Bool × Nat :=
  match occurrence? ['*', '/'] (text.drop 2) with
  | some index => (true, 2 + (index + 2))
  | none => (false, text.length)

/-- The span of a comment, if one begins the text. A comment of one line ends in front of the newline
and needs no closing mark. -/
def commentSpan? (text : List Char) : Option (Bool × Nat) :=
  if ['/', '/'] <+: text then some (true, (text.takeWhile (· != '\n')).length)
  else if ['/', '*'] <+: text then some (blockSpan text)
  else none

def wordFront (text : List Char) : List Char :=
  text.takeWhile fun rune => decide (Unicode.isAlphanumeric rune ∨ rune = '_')

def decimalDigits : List Char :=
  "0123456789".toList

def hexadecimalDigits : List Char :=
  decimalDigits ++ "abcdef".toList ++ "ABCDEF".toList

def latinLetters : List Char :=
  "abcdefghijklmnopqrstuvwxyz".toList ++ "ABCDEFGHIJKLMNOPQRSTUVWXYZ".toList

/-! ### The same classes as tests -/

theorem beginsWord_iff {rune : Char} :
    beginsWord rune = true ↔ Unicode.isAlphabetic rune ∨ rune = '_' := by
  rw [beginsWord, Bool.or_eq_true, beq_iff_eq]

theorem wordFront_eq (text : List Char) : wordFront text = text.takeWhile continuesWord := by
  have same : (fun rune => decide (Unicode.isAlphanumeric rune ∨ rune = '_')) = continuesWord := by
    funext rune
    rw [continuesWord, Bool.eq_iff_iff, decide_eq_true_iff, Bool.or_eq_true, beq_iff_eq]
  rw [wordFront, same]

/-- Runes in a row, with no code point left out, are those between the first and the last. -/
theorem contains_consecutive (row : List Char) (first last : Char)
    (consecutive : row.map Char.toNat =
      List.range' first.toNat (last.toNat + 1 - first.toNat)) (rune : Char) :
    row.contains rune = (decide (first ≤ rune) && decide (rune ≤ last)) := by
  have injective : Function.Injective Char.toNat := fun _ _ same => Char.toNat_inj.mp same
  have bounds : rune ∈ row ↔ first.toNat ≤ rune.toNat ∧ rune.toNat ≤ last.toNat := by
    rw [← List.mem_map_of_injective injective, consecutive, List.mem_range'_1]
    omega
  rw [Bool.eq_iff_iff, List.contains_iff_mem, bounds, Bool.and_eq_true, decide_eq_true_iff,
    decide_eq_true_iff]
  exact Iff.rfl

theorem contains_decimalDigits : decimalDigits.contains = isAsciiDigit :=
  funext (contains_consecutive "0123456789".toList '0' '9' (by decide))

theorem mem_decimalDigits_iff {rune : Char} :
    rune ∈ decimalDigits ↔ isAsciiDigit rune = true := by
  rw [← List.contains_iff_mem, contains_decimalDigits]

theorem contains_hexadecimalDigits : hexadecimalDigits.contains = isAsciiHexDigit := by
  funext rune
  rw [hexadecimalDigits, List.contains_append, List.contains_append, contains_decimalDigits,
    contains_consecutive "abcdef".toList 'a' 'f' (by decide),
    contains_consecutive "ABCDEF".toList 'A' 'F' (by decide)]
  rfl

theorem contains_latinLetters : latinLetters.contains = isAsciiLetter := by
  funext rune
  have small :=
    contains_consecutive "abcdefghijklmnopqrstuvwxyz".toList 'a' 'z' (by decide +kernel)
  have capital :=
    contains_consecutive "ABCDEFGHIJKLMNOPQRSTUVWXYZ".toList 'A' 'Z' (by decide +kernel)
  exact List.contains_append.trans (congrArg₂ or (small rune) (capital rune))

theorem mem_map_toList_iff {table : List String} {word : List Char} :
    word ∈ table.map String.toList ↔ String.ofList word ∈ table := by
  rw [List.mem_map]
  constructor
  · rintro ⟨spelling, member, rfl⟩
    rw [String.ofList_toList]
    exact member
  · intro member
    exact ⟨_, member, String.toList_ofList⟩

/-! ### Lengths -/

theorem blockSpan_pos {text : List Char} (nonempty : text ≠ []) : 0 < (blockSpan text).2 := by
  unfold blockSpan
  split
  · omega
  · exact List.length_pos_iff.mpr nonempty

theorem takeWhile_pos {member : Char → Bool} {rune : Char} (holds : member rune = true)
    (rest : List Char) : 0 < ((rune :: rest).takeWhile member).length := by
  rw [List.takeWhile_cons_of_pos holds]
  exact Nat.succ_pos _

theorem wordFront_begins (text : List Char) : wordFront text <+: text :=
  List.takeWhile_prefix _

theorem wordFront_pos {rune : Char} (begins : Unicode.isAlphabetic rune ∨ rune = '_')
    (rest : List Char) : 0 < (wordFront (rune :: rest)).length := by
  rw [wordFront_eq]
  exact takeWhile_pos (continuesWord_of_beginsWord (beginsWord_iff.mpr begins)) rest

theorem commentSpan?_pos {text : List Char} {closed : Bool} {count : Nat}
    (found : commentSpan? text = some (closed, count)) : 0 < count := by
  unfold commentSpan? at found
  split at found
  · rename_i begins
    obtain ⟨rest, rfl⟩ := begins
    cases found
    exact takeWhile_pos (by decide) _
  · split at found
    · rename_i begins
      have nonempty : text ≠ [] := begins.ne_nil (List.cons_ne_nil _ _)
      have positive := blockSpan_pos nonempty
      rw [Option.some.inj found] at positive
      exact positive
    · cases found

end Lexer

open Lexer

namespace Reader

variable {reader inside : Reader}

/-- The rest of a comment of one line, behind its two slashes. -/
theorem Takes.lineComment (takes : Takes reader 2 inside)
    (begins : ['/', '/'] <+: reader.upcoming) :
    Takes reader (reader.upcoming.takeWhile (· != '\n')).length
      (inside.skipUntil (.single '\n')).2 := by
  obtain ⟨rest, text⟩ := begins
  have further := (takes.ready.acceptRunWhen (· != '\n')).2
  have whole := takes.trans further
  rw [takes.upcoming_eq, ← text] at whole
  have length : (reader.upcoming.takeWhile (· != '\n')).length =
      2 + (rest.takeWhile (· != '\n')).length := by
    rw [← text]
    exact Nat.add_comm _ 2
  rw [length]
  exact whole

/-- The rest of a comment between marks, behind the opening one. -/
theorem Takes.blockComment (takes : Takes reader 2 inside)
    (begins : ['/', '*'] <+: reader.upcoming) :
    (inside.seekPast ['*', '/']).1.found = (blockSpan reader.upcoming).1 ∧
      Takes reader (blockSpan reader.upcoming).2 (inside.seekPast ['*', '/']).2 := by
  have left := takes.upcoming_eq
  unfold blockSpan
  rw [← left]
  cases found : occurrence? ['*', '/'] inside.upcoming with
  | some index =>
      have one := occurrence?_eq_some_iff.mp found
      obtain ⟨answer, further⟩ := takes.ready.seekPast_of_firstAt one
      exact ⟨answer, takes.trans further⟩
  | none =>
      have absent := occurrence?_eq_none_iff.mp found
      obtain ⟨answer, further⟩ := takes.ready.seekPast_of_absent absent
      have whole := takes.trans further
      have total : 2 + inside.upcoming.length = reader.upcoming.length := by
        rw [left, List.length_drop]
        exact Nat.add_sub_cancel' begins.length_le
      rw [total] at whole
      exact ⟨answer, whole⟩

theorem Ready.comment (ready : reader.Ready) :
    let span := commentSpan? reader.upcoming
    Yields reader (span.map Prod.fst) ((span.map Prod.snd).getD 0) (comment reader) := by
  intro span
  unfold Lexer.comment
  by_cases line : ['/', '/'] <+: reader.upcoming
  · have spans : span = some (true, _) := if_pos line
    obtain ⟨inside, same, takes⟩ := (ready.acceptLiteral_of_prefix line).eq
    rw [same, spans]
    exact ⟨rfl, takes.lineComment line⟩
  · obtain ⟨after, same, still⟩ := (ready.acceptLiteral_of_not_prefix line).eq
    have text := still.same_upcoming
    rw [same]
    simp only
    by_cases block : ['/', '*'] <+: reader.upcoming
    · have spans : span = some (blockSpan reader.upcoming) := (if_neg line).trans (if_pos block)
      rw [← text] at block
      obtain ⟨inside, opened, takes⟩ := (still.ready.acceptLiteral_of_prefix block).eq
      obtain ⟨answer, further⟩ := takes.blockComment block
      rw [text] at answer further
      rw [opened, spans]
      exact still.yields ⟨congrArg some answer, further⟩
    · have spans : span = none := (if_neg line).trans (if_neg block)
      rw [← text] at block
      obtain ⟨last, unopened, again⟩ := (still.ready.acceptLiteral_of_not_prefix block).eq
      rw [unopened, spans]
      exact ⟨rfl, still.trans again⟩

theorem Ready.word (ready : reader.Ready) :
    Takes reader (wordFront reader.upcoming).length (word reader) := by
  rw [wordFront_eq]
  exact (ready.acceptRunWhen continuesWord).2

/-- A comment is a token, and where none begins another rule says what the token is. -/
theorem Ready.commented {Kind : Type} {others : Reader → Kind × Reader} {other : Kind × Nat}
    (ready : reader.Ready) (closed unclosed : Kind)
    (rest : ∀ after, Takes reader 0 after → Yields after other.1 other.2 (others after)) :
    let found : Kind × Nat :=
      match commentSpan? reader.upcoming with
      | some (true, count) => (closed, count)
      | some (false, count) => (unclosed, count)
      | none => other
    Yields reader found.1 found.2
      (match Lexer.comment reader with
        | (some true, after) => (closed, after)
        | (some false, after) => (unclosed, after)
        | (none, after) => others after) := by
  intro found
  have commented := ready.comment
  unfold found
  generalize commentSpan? reader.upcoming = span at commented ⊢
  obtain ⟨after, same, takes⟩ := commented.eq
  rw [same]
  match span, takes with
  | some (true, count), takes => exact ⟨rfl, takes⟩
  | some (false, count), takes => exact ⟨rfl, takes⟩
  | none, takes => exact Takes.yields takes (rest after takes)

/-- The first of the operators that the text begins with is a token, and else a single rune is. -/
theorem Ready.operator {Kind : Type} (ready : reader.Ready) (operators : List (List Char))
    (operator other : Kind) :
    let found : Kind × Nat :=
      match operators.find? (·.isPrefixOf reader.upcoming) with
      | some taken => (operator, taken.length)
      | none => (other, 1)
    Yields reader found.1 found.2
      (match reader.acceptAnyLiteral operators with
        | (true, last) => (operator, last)
        | (false, last) => (other, last.next.2)) := by
  intro found
  have tried := ready.acceptAnyLiteral operators
  unfold found
  generalize operators.find? _ = first at tried ⊢
  obtain ⟨last, same, takes⟩ := tried.eq
  rw [same]
  cases first with
  | some taken => exact ⟨rfl, takes⟩
  | none => exact ⟨rfl, takes.trans takes.ready.next.takes⟩

end Reader
end RuneScan
