import RuneScan.Reader.Search
import RuneScan.Proofs.Reader.Steps

/-!
What becomes of an attempt at a literal. It takes the literal's runes, or it leaves the cursor where
it was: either the runes to come do not begin with the literal, or the source was not ready for one
of them.
-/

namespace RuneScan.Reader

open Utf8 (runes)

/-- The source was not ready for a rune of the literal, all runes before which were there. -/
def isCutShort : List Char → Reader → Bool
  | [], _ => false
  | expected :: rest, reader =>
      match reader.next with
      | (none, after) => after.error?.isNone
      | (some rune, after) => if rune = expected then isCutShort rest after else false

inductive LiteralEnd (literal : List Char) (before : Reader) : Bool → Reader → Prop where
  | taken (passed : List Rune) (after : Reader) : Passes before passed after →
      passed.map Rune.char = literal → LiteralEnd literal before true after
  | missed (after : Reader) : Passes before [] after →
      ¬ literal <+: (runes before.coming).map Rune.char → before.isCutShort literal = false →
      LiteralEnd literal before false after
  | cutShort (after : Reader) : Passes before [] after → before.isCutShort literal = true →
      after.intake.source.stalls < before.intake.source.stalls →
      LiteralEnd literal before false after

theorem Sound.acceptLiteral {reader : Reader} (sound : reader.Sound) (literal : List Char) :
    Later reader (reader.acceptLiteral literal).2 ∧
      LiteralEnd literal reader (reader.acceptLiteral literal).1
        (reader.acceptLiteral literal).2 := by
  induction literal generalizing reader with
  | nil => exact ⟨.refl sound, .taken [] reader (.refl reader) rfl⟩
  | cons expected others ih =>
      rcases sound.next with ⟨later, finish⟩
      have cut : reader.isCutShort (expected :: others) =
          match reader.next with
          | (none, after) => after.error?.isNone
          | (some rune, after) =>
              if rune = expected then after.isCutShort others else false := rfl
      unfold Reader.acceptLiteral
      generalize reader.next = result at later finish cut ⊢
      rcases result with ⟨answer, after⟩
      simp only at later finish cut ⊢
      cases finish with
      | ended _ passes finished nothing =>
          have error : after.error?.isNone = false := by
            rw [Option.isNone_eq_false_iff]
            exact finished
          refine ⟨later, .missed after passes ?_ (cut.trans error)⟩
          rw [← (passes.nil_eq sound later.sound).2.1, nothing, Utf8.runes_nil]
          intro begins
          cases List.prefix_nil.mp begins
      | stalled _ passes live stalled front =>
          have error : after.error?.isNone = true := by
            rw [error?_of_live live]
            rfl
          exact ⟨later, .cutShort after passes (cut.trans error) stalled.1⟩
      | read rune _ passes front =>
          by_cases matched : rune.char = expected
          · obtain ⟨deeper, attempt⟩ := ih later.sound
            simp only [matched, if_true] at cut ⊢
            generalize after.acceptLiteral others = result at deeper attempt ⊢
            rcases result with ⟨found, last⟩
            simp only at deeper attempt ⊢
            -- On the way back out of a failed attempt this level gives back the rune it took.
            cases attempt with
            | taken passed _ more same =>
                refine ⟨later.trans deeper, .taken (rune :: passed) last (passes.trans more) ?_⟩
                rw [List.map_cons, matched, same]
            | missed _ same absent whole =>
                have back := (passes.trans same).backup deeper.sound
                refine ⟨(later.trans deeper).trans (deeper.sound.backup 1).1,
                  .missed _ back ?_ (cut.trans whole)⟩
                rw [front, List.map_cons, matched]
                intro begins
                exact absent (List.cons_prefix_cons.mp begins).2
            | cutShort _ same unsettled fewer =>
                have back := (passes.trans same).backup deeper.sound
                refine ⟨(later.trans deeper).trans (deeper.sound.backup 1).1,
                  .cutShort _ back (cut.trans unsettled) ?_⟩
                rw [backup_source]
                exact Nat.lt_of_lt_of_le fewer later.stalls_le
          · simp only [matched, if_false] at cut ⊢
            have back := passes.backup later.sound
            refine ⟨later.trans (later.sound.backup 1).1, .missed _ back ?_ cut⟩
            rw [front, List.map_cons]
            intro begins
            exact matched (List.cons_prefix_cons.mp begins).1.symm

end RuneScan.Reader
