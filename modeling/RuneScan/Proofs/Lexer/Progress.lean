import RuneScan.Lexer.Listing
import RuneScan.Proofs.ReadDiscipline
import RuneScan.Proofs.Reader.Runs
import RuneScan.Proofs.Replay
import RuneScan.Proofs.Search

/-!
Progress of lexers. The rune that was looked at is at hand, and no byte that may come changes it; an
attempt that fails leaves it where it is, though it may have read, met a stall or come to the end. So
every turn that a grammar takes consumes that rune at least, whatever the source does.
-/

namespace RuneScan

open Utf8 (Decided runes)

namespace Reader

variable {before after reader : Reader} {rune : Char}

/-! ### The rune at hand -/

/-- The rune at the cursor is at hand, and nothing that may come can change it. -/
structure Poised (rune : Char) (reader : Reader) : Prop where
  certain : reader.Certain
  decided : ∃ front : Rune, front.char = rune ∧
    Decided reader.intake.hasEnded [front] reader.intake.window.ahead

theorem Poised.next (poised : Poised rune reader) : reader.next.1 = some rune := by
  obtain ⟨front, rfl, decided⟩ := poised.decided
  cases decided with
  | cons _ _ nonempty settled _ => rw [poised.certain.laid.next_settled nonempty settled]

/-- A rune that was looked at is at hand. -/
theorem Certain.poised_of_peek (certain : reader.Certain)
    (looked : reader.peek = (some rune, after)) : Passes reader [] after ∧ Poised rune after := by
  have next := certain.next
  obtain ⟨later, finish⟩ := certain.sound.next
  unfold peek at looked
  generalize reader.next = result at next later finish looked
  rcases result with ⟨answer, taken⟩
  cases finish with
  | read front _ passes _ =>
      obtain ⟨same, back⟩ := Prod.mk.inj looked
      have decided := next.decided_backup 1
      rw [passes.runes_eq, List.length_append, List.length_singleton, Nat.add_sub_cancel,
        List.drop_left] at decided
      rw [← back]
      exact ⟨passes.backup later.sound, next.backup 1, front, Option.some.inj same, decided⟩
  | ended _ _ _ _ => cases looked
  | stalled _ _ _ _ _ => cases looked

theorem Sound.peek_missed (sound : reader.Sound) (looked : reader.peek = (none, after)) :
    reader.next = (none, after) ∧ Passes reader [] after := by
  have finish := sound.next.2
  unfold peek at looked
  generalize reader.next = result at finish looked ⊢
  rcases result with ⟨answer, last⟩
  cases finish with
  | read _ _ _ _ => cases looked
  | ended _ passes _ _ =>
      cases looked
      exact ⟨rfl, passes⟩
  | stalled _ passes _ _ _ =>
      cases looked
      exact ⟨rfl, passes⟩

/-- Where nothing is cut off the bytes in use only grow, and not at all once the input has ended. -/
theorem Reaches.kept_grows (reaches : Reaches before [] after) (laid : before.Laid) :
    ∃ more, after.intake.window.kept = before.intake.window.kept ++ more ∧
      (before.intake.hasEnded = true → after.intake.hasEnded = true ∧ more = []) := by
  have kept := (reaches.took laid).2
  refine ⟨_, kept, ?_⟩
  intro ended
  obtain ⟨moves, rfl, _⟩ := reaches
  obtain ⟨condition, source⟩ := moveAll_of_ended (Intake.not_live_of_ended ended) moves
  constructor
  · rw [Intake.hasEnded, condition]
    exact ended
  · rw [source, Nat.sub_self]
    rfl

theorem Poised.stays (poised : Poised rune before) (reaches : Reaches before [] after)
    (passes : Passes before [] after) : Poised rune after := by
  have certain := reaches.certain poised.certain
  obtain ⟨more, kept, closed⟩ := reaches.kept_grows poised.certain.laid
  have pending := (passes.nil_eq poised.certain.sound certain.sound).1
  have ahead : after.intake.window.ahead = before.intake.window.ahead ++ more := by
    rw [certain.sound.kept_eq, poised.certain.sound.kept_eq, pending, List.append_assoc] at kept
    exact List.append_cancel_left kept
  obtain ⟨front, same, decided⟩ := poised.decided
  refine ⟨certain, front, same, ?_⟩
  rw [ahead]
  exact decided.append closed

/-! ### Moving on -/

structure Onward (least : Nat) (before after : Reader) : Prop where
  reaches : Reaches before [] after
  passes : ∃ passed, least ≤ passed.length ∧ Passes before passed after

theorem Onward.refl (reader : Reader) : Onward 0 reader reader :=
  ⟨.refl reader, [], Nat.le_refl _, .refl reader⟩

theorem Onward.trans {first second third : Reader} {least more : Nat}
    (earlier : Onward least first second) (later : Onward more second third) :
    Onward (least + more) first third := by
  obtain ⟨passed, enough, passes⟩ := earlier.passes
  obtain ⟨others, further, goes⟩ := later.passes
  refine ⟨earlier.reaches.trans later.reaches, passed ++ others, ?_, passes.trans goes⟩
  rw [List.length_append]
  exact Nat.add_le_add enough further

theorem Onward.certain {least : Nat} (onward : Onward least before after)
    (certain : before.Certain) : after.Certain :=
  onward.reaches.certain certain

theorem Certain.onward_next (certain : reader.Certain) : Onward 0 reader reader.next.2 := by
  obtain ⟨passed, passes⟩ := certain.sound.next.2.passes
  exact ⟨(next_leads reader).reaches, passed, Nat.zero_le _, passes⟩

theorem Poised.onward_next (poised : Poised rune reader) : Onward 1 reader reader.next.2 := by
  refine ⟨(next_leads reader).reaches, ?_⟩
  have finish := poised.certain.sound.next.2
  rw [poised.next] at finish
  generalize reader.next.2 = after at finish ⊢
  cases finish with
  | read rune _ passes _ => exact ⟨[rune], Nat.le_refl _, passes⟩

theorem Certain.onward_acceptRunFrom (certain : reader.Certain) (test : RuneTest)
    (shown : Array Char) : Onward 0 reader (reader.acceptRunFrom test shown).2 := by
  obtain ⟨passed, ran⟩ := certain.sound.acceptRunFrom test shown
  exact ⟨(acceptRunFrom_leads test shown reader).reaches, passed, Nat.zero_le _, ran.passes⟩

/-- A run whose test holds for the rune at hand takes it. -/
theorem Poised.onward_acceptRunWhen (poised : Poised rune reader) {member : Char → Bool}
    (holds : member rune = true) :
    Onward 1 reader (reader.acceptRunWhen (.ofClass member)).2 := by
  have first := poised.onward_next
  have taken := poised.next
  unfold acceptRunWhen
  rw [acceptRunFrom_eq]
  generalize reader.next = result at first taken ⊢
  rcases result with ⟨answer, after⟩
  cases taken
  have test : RuneTest.ofClass member #[] rune = true := holds
  simp only [test, if_true]
  exact first.trans ((first.certain poised.certain).onward_acceptRunFrom _ _)

theorem Certain.onward_acceptWhen (certain : reader.Certain) (test : RuneTest) :
    Onward 0 reader (reader.acceptWhen test).2 := by
  have first := certain.onward_next
  obtain ⟨later, finish⟩ := certain.sound.next
  refine ⟨(acceptWhen_leads test reader).reaches, ?_⟩
  unfold acceptWhen
  generalize reader.next = result at first later finish ⊢
  rcases result with ⟨answer, after⟩
  cases finish with
  | read rune _ passes _ =>
      by_cases holds : test #[] rune.char = true
      · simp only [holds, if_true]
        exact first.passes
      · simp only [holds]
        exact ⟨[], Nat.le_refl _, passes.backup later.sound⟩
  | ended _ _ _ _ => exact first.passes
  | stalled _ _ _ _ _ => exact first.passes

theorem Certain.onward_seekPast (certain : reader.Certain) (literal : List Char) :
    Onward 0 reader (reader.seekPast literal).2 := by
  obtain ⟨_, skipped, matched, sought⟩ := certain.sound.seekPast literal
  exact ⟨(seekPast_leads literal reader).reaches, _, Nat.zero_le _, sought.passes⟩

/-! ### Attempts -/

inductive Tried (rune : Char) (before : Reader) : Bool → Reader → Prop where
  | taken (after : Reader) : Onward 1 before after → Tried rune before true after
  | left (after : Reader) : Onward 0 before after → Poised rune after →
      Tried rune before false after

theorem Onward.tried {taken : Bool} (onward : Onward 0 before reader)
    (tried : Tried rune reader taken after) : Tried rune before taken after := by
  cases tried with
  | taken _ further => exact .taken after (onward.trans further)
  | left _ further poised => exact .left after (onward.trans further) poised

theorem Poised.acceptLiteral (poised : Poised rune reader) {literal : List Char}
    (nonempty : literal ≠ []) :
    Tried rune reader (reader.acceptLiteral literal).1 (reader.acceptLiteral literal).2 := by
  have reaches := (acceptLiteral_leads literal reader).reaches
  have attempt := (poised.certain.sound.acceptLiteral literal).2
  generalize reader.acceptLiteral literal = result at reaches attempt ⊢
  rcases result with ⟨found, after⟩
  cases attempt with
  | taken passed _ passes same =>
      refine .taken after ⟨reaches, passed, ?_, passes⟩
      rw [← List.length_map Rune.char, same]
      exact List.length_pos_iff.mpr nonempty
  | missed _ passes _ _ =>
      exact .left after ⟨reaches, [], Nat.le_refl _, passes⟩ (poised.stays reaches passes)
  | cutShort _ passes _ _ =>
      exact .left after ⟨reaches, [], Nat.le_refl _, passes⟩ (poised.stays reaches passes)

theorem Poised.acceptAnyLiteral {literals : List (List Char)} (poised : Poised rune reader)
    (nonempty : ∀ literal ∈ literals, literal ≠ []) :
    Tried rune reader (reader.acceptAnyLiteral literals).1
      (reader.acceptAnyLiteral literals).2 := by
  induction literals generalizing reader with
  | nil => exact .left reader (.refl reader) poised
  | cons literal others ih =>
      obtain ⟨some, rest⟩ := List.forall_mem_cons.mp nonempty
      have attempt := poised.acceptLiteral some
      unfold Reader.acceptAnyLiteral
      generalize reader.acceptLiteral literal = result at attempt ⊢
      rcases result with ⟨found, after⟩
      cases attempt with
      | taken _ onward => exact .taken after onward
      | left _ onward poised => exact onward.tried (ih poised rest)

end Reader

/-! ### Turns of the grammars -/

namespace Lexer

open Reader (Onward Poised Tried)

variable {reader : Reader} {rune : Char}

theorem tried_comment (poised : Poised rune reader) :
    Tried rune reader (comment reader).1.isSome (comment reader).2 := by
  have line := poised.acceptLiteral (List.cons_ne_nil '/' ['/'])
  unfold comment
  generalize reader.acceptLiteral ['/', '/'] = result at line ⊢
  rcases result with ⟨found, after⟩
  cases line with
  | taken _ onward =>
      have inside := onward.certain poised.certain
      exact .taken _ (onward.trans (inside.onward_acceptRunFrom _ _))
  | left _ onward still =>
      have block := still.acceptLiteral (List.cons_ne_nil '/' ['*'])
      simp only
      generalize after.acceptLiteral ['/', '*'] = result at block ⊢
      rcases result with ⟨opened, last⟩
      cases block with
      | taken _ further =>
          have inside := further.certain still.certain
          exact onward.tried (.taken _ (further.trans (inside.onward_seekPast ['*', '/'])))
      | left _ further poised => exact onward.tried (.left _ further poised)

theorem onward_word (poised : Poised rune reader) (begins : beginsWord rune = true) :
    Onward 1 reader (word reader) :=
  poised.onward_acceptRunWhen (continuesWord_of_beginsWord begins)

/-- An operator, or else any rune, is a token. -/
theorem onward_operator {Kind : Type} {operators : List (List Char)}
    (nonempty : ∀ literal ∈ operators, literal ≠ []) (poised : Poised rune reader)
    (operator other : Kind) :
    Onward 1 reader
      (match reader.acceptAnyLiteral operators with
        | (true, last) => (operator, last)
        | (false, last) => (other, last.next.2)).2 := by
  have tried := poised.acceptAnyLiteral nonempty
  generalize reader.acceptAnyLiteral operators = result at tried ⊢
  rcases result with ⟨found, last⟩
  cases tried with
  | taken _ further => exact further
  | left _ further still => exact further.trans still.onward_next

/-- A comment is a token, and where none begins another rule takes one. -/
theorem onward_commented {Kind : Type} {others : Reader → Kind × Reader}
    (poised : Poised rune reader) (closed unclosed : Kind)
    (onward : ∀ after, Poised rune after → Onward 1 after (others after).2) :
    Onward 1 reader
      (match comment reader with
        | (some true, after) => (closed, after)
        | (some false, after) => (unclosed, after)
        | (none, after) => others after).2 := by
  have commented := tried_comment poised
  generalize comment reader = result at commented ⊢
  rcases result with ⟨_ | isClosed, after⟩
  · cases commented with
    | left _ first still => exact first.trans (onward after still)
  · cases commented with
    | taken _ first =>
        cases isClosed with
        | true => exact first
        | false => exact first

namespace Snippet

theorem onward_number (poised : Poised rune reader) (digit : isAsciiDigit rune = true) :
    Onward 1 reader (number reader) := by
  have marked := poised.acceptLiteral (List.cons_ne_nil '0' ['x'])
  unfold number
  generalize reader.acceptLiteral ['0', 'x'] = result at marked ⊢
  rcases result with ⟨found, after⟩
  cases marked with
  | taken _ onward =>
      exact onward.trans ((onward.certain poised.certain).onward_acceptRunFrom _ _)
  | left _ onward still =>
      have whole : Onward 1 after (after.acceptRun digits).2 :=
        still.onward_acceptRunWhen digit
      have pointed : Onward 0 (after.acceptRun digits).2
          ((after.acceptRun digits).2.accept (.single '.')).2 :=
        (whole.certain still.certain).onward_acceptWhen _
      simp only
      generalize (after.acceptRun digits).2.accept (.single '.') = result at pointed ⊢
      rcases result with ⟨found, last⟩
      have sofar := onward.trans (whole.trans pointed)
      cases found with
      | true => exact sofar.trans ((sofar.certain poised.certain).onward_acceptRunFrom _ _)
      | false => exact sofar

theorem onward_stringRest (certain : reader.Certain) :
    Onward 0 reader (stringRest reader).2 := by
  have step {before after : Reader} {answer : Option Char} (certain : before.Certain)
      (taken : (before.skipUntil stringStops).2.next = (answer, after)) :
      Onward 0 before after := by
    have skipped : Onward 0 before (before.skipUntil stringStops).2 :=
      certain.onward_acceptRunFrom _ _
    have next := (skipped.certain certain).onward_next
    rw [taken] at next
    exact skipped.trans next
  fun_induction stringRest reader with
  | case1 reader after taken => exact step certain taken
  | case2 reader after taken => exact step certain taken
  | case3 reader after taken _ ih =>
      have escaped := step certain taken
      have next := (escaped.certain certain).onward_next
      have sofar := escaped.trans next
      exact sofar.trans (ih (sofar.certain certain))
  | case4 reader rune after taken plain ordinary => exact step certain taken

theorem onward_scan (poised : Poised rune reader) : Onward 1 reader (scan rune reader).2 := by
  apply onward_commented poised
  intro after still
  split
  · rename_i begins
    exact onward_word still begins
  · split
    · rename_i digit
      exact onward_number still digit
    · split
      · have opened := still.onward_next
        exact opened.trans (onward_stringRest (opened.certain still.certain))
      · have nonempty : ∀ literal ∈ operators, literal ≠ [] := by decide
        exact onward_operator nonempty still Kind.punctuation Kind.error

end Snippet

namespace Listing

theorem onward_scan (poised : Poised rune reader) : Onward 1 reader (scan rune reader).2 := by
  apply onward_commented poised
  intro after still
  split
  · rename_i begins
    exact onward_word still begins
  · split
    · rename_i digit
      exact still.onward_acceptRunWhen (continuesNumber_of_isAsciiDigit digit)
    · split
      · have opened := still.onward_next
        exact opened.trans ((opened.certain still.certain).onward_seekPast [rune])
      · have nonempty : ∀ literal ∈ operators, literal ≠ [] := by decide
        exact onward_operator nonempty still Kind.operator Kind.punctuation

end Listing
end Lexer
end RuneScan
