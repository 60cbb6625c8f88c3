import RuneScan.Reader.Accept
import RuneScan.Proofs.Reader.Steps

/-!
What becomes of a run of a test. It takes the runes to come as long as the test holds for them, and it
ends in front of the rune for which the test fails, at the end of the stream, or where the source was
not ready.
-/

namespace RuneScan

open Utf8 (runes)

namespace RuneTest

/-- The test holds for the runes one after the other, when it has been shown some others before. -/
def Accepts (test : RuneTest) : Array Char → List Char → Prop
  | _, [] => True
  | shown, rune :: others => test shown rune = true ∧ test.Accepts (shown.push rune) others

theorem accepts_ofClass {member : Char → Bool} {shown : Array Char} {accepted : List Char} :
    (ofClass member).Accepts shown accepted ↔ ∀ rune ∈ accepted, member rune = true := by
  induction accepted generalizing shown with
  | nil => exact iff_of_true trivial (fun _ absent => nomatch absent)
  | cons rune others ih =>
      rw [List.forall_mem_cons, Accepts, ih]
      rfl

end RuneTest

namespace Reader

inductive RunStop (test : RuneTest) (shown : Array Char) (before after : Reader) :
    Option Char → Prop where
  | rejected (rune : Rune) (others : List Rune) : runes after.coming = rune :: others →
      test shown rune.char = false → RunStop test shown before after (some rune.char)
  | ended : after.intake.hasEnded = true → after.coming = [] →
      RunStop test shown before after none
  | stalled : after.error? = none →
      after.intake.source.stalls < before.intake.source.stalls →
      RunStop test shown before after none

theorem RunStop.from_earlier {test : RuneTest} {shown : Array Char} {first second after : Reader}
    {rejected : Option Char} (stop : RunStop test shown second after rejected)
    (fewer : second.intake.source.stalls ≤ first.intake.source.stalls) :
    RunStop test shown first after rejected := by
  cases stop with
  | rejected rune others front fails => exact .rejected rune others front fails
  | ended finished nothing => exact .ended finished nothing
  | stalled live less => exact .stalled live (Nat.lt_of_lt_of_le less fewer)

structure Ran (test : RuneTest) (shown : Array Char) (before : Reader) (passed : List Rune)
    (result : Run × Reader) : Prop where
  later : Later before result.2
  passes : Passes before passed result.2
  chars_eq : passed.map Rune.char = result.1.accepted
  accepts : test.Accepts shown result.1.accepted
  stop : RunStop test (shown ++ result.1.accepted) before result.2 result.1.rejected

theorem Ran.length_eq {test : RuneTest} {shown : Array Char} {before : Reader} {passed : List Rune}
    {result : Run × Reader} (ran : Ran test shown before passed result) :
    passed.length = result.1.count := by
  rw [← List.length_map Rune.char, ran.chars_eq]
  rfl

theorem Sound.acceptRunFrom {reader : Reader} (sound : reader.Sound) (test : RuneTest)
    (shown : Array Char) :
    ∃ passed, Ran test shown reader passed (reader.acceptRunFrom test shown) := by
  fun_induction Reader.acceptRunFrom test shown reader with
  | case1 shown reader after taken =>
      obtain ⟨later, finish⟩ := sound.next
      rw [taken] at later finish
      cases finish with
      | ended _ passes finished nothing =>
          exact ⟨[], later, passes, rfl, trivial, .ended finished nothing⟩
      | stalled _ passes live stalled _ =>
          exact ⟨[], later, passes, rfl, trivial, .stalled (error?_of_live live) stalled.1⟩
  | case2 shown reader char after taken holds run last result ih =>
      obtain ⟨later, finish⟩ := sound.next
      rw [taken] at later finish
      obtain ⟨passed, ran⟩ := ih later.sound
      rw [result] at ran
      cases finish with
      | read rune _ passes front =>
          refine ⟨rune :: passed, later.trans ran.later, passes.trans ran.passes, ?_,
            ⟨holds, ran.accepts⟩, ?_⟩
          · rw [List.map_cons, ran.chars_eq]
          · have stop := ran.stop.from_earlier later.stalls_le
            rw [← Array.appendList_cons] at stop
            exact stop
  | case3 shown reader char after taken fails =>
      obtain ⟨later, finish⟩ := sound.next
      rw [taken] at later finish
      cases finish with
      | read rune _ passes front =>
          have back := passes.backup later.sound
          have undone := (later.sound.backup 1).1
          have coming := (back.nil_eq sound undone.sound).2.1
          refine ⟨[], later.trans undone, back, rfl, trivial,
            .rejected rune _ ((congrArg runes coming).trans front) ?_⟩
          rw [Array.appendList_nil]
          exact Bool.eq_false_iff.mpr fails

/-- What a run of a class has passed belongs to the class, and what follows it does not, unless the
source was not ready. -/
theorem Ran.takeWhile_eq {member : Char → Bool} {shown : Array Char} {reader : Reader}
    {passed : List Rune} {result : Run × Reader}
    (ran : Ran (.ofClass member) shown reader passed result) (sound : reader.Sound) :
    ((runes reader.coming).map Rune.char).takeWhile member =
        passed.map Rune.char ++ ((runes result.2.coming).map Rune.char).takeWhile member ∧
      (result.2.intake.source.stalls < reader.intake.source.stalls ∨
        ((runes result.2.coming).map Rune.char).takeWhile member = []) := by
  have accepted := RuneTest.accepts_ofClass.mp ran.accepts
  rw [← ran.chars_eq] at accepted
  constructor
  · rw [ran.passes.runes_coming sound ran.later.sound, List.map_append,
      List.takeWhile_append_of_pos accepted]
  · have stop := ran.stop
    generalize result.1.rejected = rejected at stop
    cases stop with
    | rejected rune others front fails =>
        have turned : member rune.char = false := fails
        right
        rw [front, List.map_cons, List.takeWhile_cons_of_neg]
        rw [turned]
        exact Bool.false_ne_true
    | ended _ nothing =>
        right
        rw [nothing, Utf8.runes_nil, List.map_nil, List.takeWhile_nil]
    | stalled _ fewer => exact .inl fewer

end Reader
end RuneScan
