import RuneScan.Reader.Basic

/-!
Literals: taking one whole or not at all, and moving on to where one first occurs.
-/

namespace RuneScan

structure Search where
  count : Nat
  found : Bool
deriving DecidableEq, Repr

namespace Reader

/-- Consumes the literal if the input goes on with it, and otherwise nothing: on the way back out
of a mismatch each rune taken before it is given back. -/
def acceptLiteral : List Char → Reader → Bool × Reader
  | [], reader => (true, reader)
  | expected :: rest, reader =>
      match reader.next with
      | (none, after) => (false, after)
      | (some rune, after) =>
          if rune = expected then
            match acceptLiteral rest after with
            | (true, last) => (true, last)
            | (false, last) => (false, last.backup 1)
          else
            (false, after.backup 1)

def acceptAnyLiteral : List (List Char) → Reader → Bool × Reader
  | [], reader => (false, reader)
  | literal :: others, reader =>
      match reader.acceptLiteral literal with
      | (true, after) => (true, after)
      | (false, after) => acceptAnyLiteral others after

/-! ### What is left -/

theorem acceptLiteral_within (literal : List Char) (reader : Reader) :
    Within reader (reader.acceptLiteral literal).2 := by
  induction literal generalizing reader with
  | nil => exact .refl reader
  | cons expected rest ih =>
      have step := next_within reader
      unfold acceptLiteral
      split
      · rename_i after same
        rw [same] at step
        exact step
      · rename_i rune after same
        rw [same] at step
        have deeper := ih after
        split
        · split
          · rename_i last result
            rw [result] at deeper
            exact step.trans deeper
          · rename_i last result
            rw [result] at deeper
            exact (step.trans deeper).trans (backup_within last 1)
        · exact step.trans (backup_within after 1)

theorem next_none_history {reader after : Reader} (missed : reader.next = (none, after)) :
    after.history = reader.history := by
  rcases next_cases reader with same | ⟨rune, _, _, same⟩
  · rw [same] at missed
    rw [← (Prod.mk.inj missed).2]
  · rw [same] at missed
    simp at missed

/-- The snapshot that `next` leaves knows where the cursor stood. -/
theorem next_some_history {reader after : Reader} {rune : Char}
    (taken : reader.next = (some rune, after)) :
    ∃ offset, after.history = ⟨offset, reader.position⟩ :: reader.history ∧
      after.intake.span - offset ≤ reader.remaining := by
  have fill := reader.intake.fill_noMore.remaining_le
  rcases next_cases reader with same | ⟨decoded, _, _, same⟩
  · rw [same] at taken
    simp at taken
  · rw [same] at taken
    simp only [Prod.mk.injEq] at taken
    rw [← taken.2]
    refine ⟨reader.intake.fill.window.offset, rfl, ?_⟩
    refine Nat.le_trans ?_ fill
    simp only [pass, Intake.span, Intake.remaining, Window.retained, Window.consume,
      Window.offset, Window.unread]
    omega

/-- Going back to a snapshot, however far the reader has come since, leaves no more than there was
when the snapshot was made. -/
private theorem rewound_remaining_le {before after last : Reader} {rune : Char}
    (taken : before.next = (some rune, after)) (later : Within after last)
    (kept : last.history = after.history) :
    (last.backup 1).remaining ≤ before.remaining ∧
      (last.backup 1).history = before.history := by
  obtain ⟨offset, history, fits⟩ := next_some_history taken
  have step := next_within before
  rw [taken] at step
  have left := (step.trans later).bytesLeft_le
  have span := later.span_le
  rw [history] at kept
  simp only [backup, kept, History.rewind, List.take_succ_cons, List.take_zero,
    List.getLast?_singleton, List.drop_succ_cons, List.drop_zero, and_true]
  simp only [remaining, Intake.remaining, Intake.span, Window.rewind, Window.retained,
    Window.unread] at fits left span ⊢
  omega

theorem acceptLiteral_missed {literal : List Char} {reader after : Reader}
    (missed : reader.acceptLiteral literal = (false, after)) :
    after.remaining ≤ reader.remaining ∧ after.history = reader.history := by
  induction literal generalizing reader after with
  | nil => simp [acceptLiteral] at missed
  | cons expected rest ih =>
      unfold acceptLiteral at missed
      split at missed
      · rename_i last same
        have step := next_remaining_le reader
        rw [same] at step
        rw [← (Prod.mk.inj missed).2]
        exact ⟨step, next_none_history same⟩
      · rename_i rune last same
        split at missed
        · split at missed
          · simp at missed
          · rename_i deepest result
            rw [← (Prod.mk.inj missed).2]
            have deeper := acceptLiteral_within rest last
            rw [result] at deeper
            exact rewound_remaining_le same deeper (ih result).2
        · rw [← (Prod.mk.inj missed).2]
          exact rewound_remaining_le same (.refl last) rfl

/-! ### Looking for a literal -/

/-- Consumes runes up to and with the first occurrence of the literal. -/
def seekPast (literal : List Char) (reader : Reader) : Search × Reader :=
  match _missed : reader.acceptLiteral literal with
  | (true, after) => (⟨literal.length, true⟩, after)
  | (false, after) =>
      match _taken : after.next with
      | (none, last) => (⟨0, false⟩, last)
      | (some _, last) =>
          let (search, finish) := seekPast literal last
          (⟨search.count + 1, search.found⟩, finish)
termination_by reader.remaining
decreasing_by
  exact Nat.lt_of_lt_of_le (next_remaining_lt _taken) (acceptLiteral_missed _missed).1

def seekTo (literal : List Char) (reader : Reader) : Search × Reader :=
  let (search, after) := reader.seekPast literal
  if search.found then
    (⟨search.count - literal.length, true⟩, after.backup literal.length)
  else
    (⟨search.count, false⟩, after)

theorem seekPast_within (literal : List Char) (reader : Reader) :
    Within reader (reader.seekPast literal).2 := by
  fun_induction seekPast literal reader with
  | case1 reader after result =>
      have attempt := acceptLiteral_within literal reader
      rw [result] at attempt
      exact attempt
  | case2 reader after missed last same =>
      have attempt := acceptLiteral_within literal reader
      have step := next_within after
      rw [missed] at attempt
      rw [same] at step
      exact attempt.trans step
  | case3 reader after missed rune last same search finish result ih =>
      have attempt := acceptLiteral_within literal reader
      have step := next_within after
      rw [missed] at attempt
      rw [same] at step
      rw [result] at ih
      exact (attempt.trans step).trans ih

theorem acceptAnyLiteral_within (literals : List (List Char)) (reader : Reader) :
    Within reader (reader.acceptAnyLiteral literals).2 := by
  induction literals generalizing reader with
  | nil => exact .refl reader
  | cons literal others ih =>
      have attempt := acceptLiteral_within literal reader
      unfold acceptAnyLiteral
      split
      · rename_i after result
        rw [result] at attempt
        exact attempt
      · rename_i after result
        rw [result] at attempt
        exact attempt.trans (ih after)

end Reader
end RuneScan
