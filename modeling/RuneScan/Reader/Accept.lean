import RuneScan.Reader.Basic
import RuneScan.RuneSet
import RuneScan.RuneTest

/-!
Taking runes by a set or a test. A rune that is turned down is unread again, so these steps can be
followed by any other.
-/

namespace RuneScan

/-- How far a test carried: the runes it accepted, in order, and the one it stopped at, if it was
not the input that stopped it. -/
structure Run where
  accepted : List Char
  rejected : Option Char
deriving DecidableEq, Repr

namespace Run

def empty : Run := ⟨[], none⟩

def count (run : Run) : Nat :=
  run.accepted.length

def succeeded (run : Run) : Bool :=
  !run.accepted.isEmpty

def shown (run : Run) : List Char :=
  run.accepted ++ run.rejected.toList

end Run

namespace Reader

def acceptWhen (test : RuneTest) (reader : Reader) : Run × Reader :=
  match reader.next with
  | (none, after) => (.empty, after)
  | (some rune, after) =>
      if test #[] rune then (⟨[rune], none⟩, after) else (⟨[], some rune⟩, after.backup 1)

/-- Consumes runes while the test holds, when it has been shown some runes already. -/
def acceptRunFrom (test : RuneTest) (shown : Array Char) (reader : Reader) : Run × Reader :=
  match _taken : reader.next with
  | (none, after) => (.empty, after)
  | (some rune, after) =>
      if test shown rune then
        let (run, last) := acceptRunFrom test (shown.push rune) after
        (⟨rune :: run.accepted, run.rejected⟩, last)
      else
        (⟨[], some rune⟩, after.backup 1)
termination_by reader.remaining
decreasing_by exact next_remaining_lt _taken

def acceptRunWhen (test : RuneTest) (reader : Reader) : Run × Reader :=
  reader.acceptRunFrom test #[]

def skipUntilWhen (test : RuneTest) (reader : Reader) : Run × Reader :=
  reader.acceptRunWhen test.negate

def accept (set : RuneSet) (reader : Reader) : Bool × Reader :=
  let (run, after) := reader.acceptWhen (.ofClass set.contains)
  (run.succeeded, after)

def acceptRun (set : RuneSet) (reader : Reader) : Nat × Reader :=
  let (run, after) := reader.acceptRunWhen (.ofClass set.contains)
  (run.count, after)

def skipUntil (set : RuneSet) (reader : Reader) : Nat × Reader :=
  let (run, after) := reader.skipUntilWhen (.ofClass set.contains)
  (run.count, after)

/-! ### What is left -/

theorem acceptWhen_within (test : RuneTest) (reader : Reader) :
    Within reader (reader.acceptWhen test).2 := by
  have step := next_within reader
  unfold acceptWhen
  split
  · rename_i after same
    rw [same] at step
    exact step
  · rename_i rune after same
    rw [same] at step
    split
    · exact step
    · exact step.trans (backup_within after 1)

theorem acceptRunFrom_within (test : RuneTest) (shown : Array Char) (reader : Reader) :
    Within reader (reader.acceptRunFrom test shown).2 := by
  fun_induction acceptRunFrom test shown reader with
  | case1 shown reader after same =>
      have step := next_within reader
      rw [same] at step
      exact step
  | case2 shown reader rune after same holds run last result ih =>
      have step := next_within reader
      rw [same] at step
      rw [result] at ih
      exact step.trans ih
  | case3 shown reader rune after same fails =>
      have step := next_within reader
      rw [same] at step
      exact step.trans (backup_within after 1)

theorem accept_within (set : RuneSet) (reader : Reader) :
    Within reader (reader.accept set).2 :=
  acceptWhen_within _ reader

theorem acceptRun_within (set : RuneSet) (reader : Reader) :
    Within reader (reader.acceptRun set).2 :=
  acceptRunFrom_within _ _ reader

theorem skipUntil_within (set : RuneSet) (reader : Reader) :
    Within reader (reader.skipUntil set).2 :=
  acceptRunFrom_within _ _ reader

/-- A rune taken and given back at once leaves no more than there was before. -/
theorem next_backup_remaining_le {reader after : Reader} {rune : Char}
    (taken : reader.next = (some rune, after)) :
    (after.backup 1).remaining ≤ reader.remaining := by
  have fill := reader.intake.fill_noMore.remaining_le
  rcases next_cases reader with same | ⟨decoded, _, _, same⟩
  · rw [same] at taken
    simp at taken
  · rw [same] at taken
    simp only [Prod.mk.injEq] at taken
    rw [← taken.2]
    refine Nat.le_trans ?_ fill
    simp only [pass, backup, History.rewind, List.take_succ_cons, List.take_zero,
      List.getLast?_singleton, remaining, Intake.remaining, Window.rewind, Window.consume,
      Window.offset, Window.unread]
    omega

theorem acceptRunFrom_remaining_le (test : RuneTest) (shown : Array Char) (reader : Reader) :
    (reader.acceptRunFrom test shown).2.remaining ≤ reader.remaining := by
  fun_induction acceptRunFrom test shown reader with
  | case1 shown reader after same =>
      have step := next_remaining_le reader
      rw [same] at step
      exact step
  | case2 shown reader rune after same holds run last result ih =>
      have step := next_remaining_lt same
      rw [result] at ih
      exact Nat.le_of_lt (Nat.lt_of_le_of_lt ih step)
  | case3 shown reader rune after same fails =>
      exact next_backup_remaining_le same

theorem skipUntil_remaining_le (set : RuneSet) (reader : Reader) :
    (reader.skipUntil set).2.remaining ≤ reader.remaining :=
  acceptRunFrom_remaining_le _ _ reader

end Reader
end RuneScan
