import RuneScan.Proofs.Reader.Steps

/-!
The three moves that every operation of a reader is made of: `next`, `backup` and the cut of a token.
What a single move keeps is kept by every run of moves.
-/

namespace RuneScan

open Utf8 (runes)

namespace Reader

inductive Move where
  | next
  | backup (count : Nat)
  | cut
deriving DecidableEq, Repr

def move (reader : Reader) : Move → Reader
  | .next => reader.next.2
  | .backup count => reader.backup count
  | .cut => reader.ignore

def moveAll (reader : Reader) : List Move → Reader
  | [] => reader
  | move :: others => (reader.move move).moveAll others

def cut? (reader : Reader) : Move → Option (List UInt8)
  | .next => none
  | .backup _ => none
  | .cut => some reader.pending

def cutTexts (reader : Reader) : List Move → List (List UInt8)
  | [] => []
  | move :: others => (reader.cut? move).toList ++ (reader.move move).cutTexts others

theorem moveAll_append (reader : Reader) (first second : List Move) :
    reader.moveAll (first ++ second) = (reader.moveAll first).moveAll second := by
  induction first generalizing reader with
  | nil => rfl
  | cons move others ih => exact ih (reader.move move)

theorem cutTexts_append (reader : Reader) (first second : List Move) :
    reader.cutTexts (first ++ second) =
      reader.cutTexts first ++ (reader.moveAll first).cutTexts second := by
  induction first generalizing reader with
  | nil => rfl
  | cons move others ih =>
      rw [List.cons_append, cutTexts, cutTexts, ih, List.append_assoc, moveAll]

def Reaches (before : Reader) (texts : List (List UInt8)) (after : Reader) : Prop :=
  ∃ moves, before.moveAll moves = after ∧ before.cutTexts moves = texts

theorem Reaches.refl (reader : Reader) : Reaches reader [] reader :=
  ⟨[], rfl, rfl⟩

theorem moveAll_reaches (reader : Reader) (moves : List Move) :
    Reaches reader (reader.cutTexts moves) (reader.moveAll moves) :=
  ⟨moves, rfl, rfl⟩

theorem Reaches.trans {first second third : Reader} {texts more : List (List UInt8)}
    (earlier : Reaches first texts second) (later : Reaches second more third) :
    Reaches first (texts ++ more) third := by
  rcases earlier with ⟨moves, rfl, rfl⟩
  rcases later with ⟨others, rfl, rfl⟩
  exact ⟨moves ++ others, moveAll_append .., cutTexts_append ..⟩

/-- What a single move keeps is kept by a run of moves. -/
theorem Reaches.induction {motive : Reader → List (List UInt8) → Prop} {before after : Reader}
    {texts : List (List UInt8)} (reaches : Reaches before texts after) (start : motive before [])
    (next : ∀ reader texts, motive reader texts → motive reader.next.2 texts)
    (backup : ∀ reader texts count, motive reader texts → motive (reader.backup count) texts)
    (cut : ∀ reader texts, motive reader texts →
      motive reader.ignore (texts ++ [reader.pending])) : motive after texts := by
  rcases reaches with ⟨moves, rfl, rfl⟩
  suffices general : ∀ reader texts, motive reader texts →
      motive (reader.moveAll moves) (texts ++ reader.cutTexts moves) by
    simpa using general before [] start
  induction moves with
  | nil =>
      intro reader texts held
      rw [cutTexts, List.append_nil]
      exact held
  | cons move others ih =>
      intro reader texts held
      rw [cutTexts, ← List.append_assoc]
      apply ih
      cases move with
      | next =>
          rw [cut?, Option.toList_none, List.append_nil]
          exact next reader texts held
      | backup count =>
          rw [cut?, Option.toList_none, List.append_nil]
          exact backup reader texts count held
      | cut => exact cut reader texts held

/-! ### What every run keeps -/

theorem Reaches.later {before after : Reader} {texts : List (List UInt8)}
    (reaches : Reaches before texts after) (sound : before.Sound) : Later before after := by
  apply reaches.induction (motive := fun reader _ => Later before reader)
  · exact .refl sound
  · intro reader _ later
    exact later.trans later.sound.next.1
  · intro reader _ count later
    exact later.trans (later.sound.backup count).1
  · intro reader _ later
    exact later.trans later.sound.ignore

end Reader
end RuneScan
