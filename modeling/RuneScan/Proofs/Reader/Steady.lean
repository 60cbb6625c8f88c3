import RuneScan.Proofs.Chunking
import RuneScan.Proofs.FirstOccurrence
import RuneScan.Proofs.Reader.Runs

/-!
The operations of a reader whose source is ready at every read. What each of them answers and how many
runes it consumes are functions of the characters to come.
-/

namespace RuneScan.Reader

open Utf8 (runes)

def upcoming (reader : Reader) : List Char :=
  (runes reader.coming).map Rune.char

theorem length_upcoming (reader : Reader) :
    reader.upcoming.length = (runes reader.coming).length :=
  List.length_map _

structure Ready (reader : Reader) : Prop where
  sound : reader.Sound
  steady : reader.intake.source.stalls = 0

theorem Ready.of_later {before after : Reader} (ready : before.Ready)
    (later : Later before after) : after.Ready := by
  refine ⟨later.sound, ?_⟩
  have fewer := later.stalls_le
  rw [ready.steady] at fewer
  exact Nat.le_zero.mp fewer

/-- No stall is left that could happen. -/
theorem Ready.no_stall {reader : Reader} (ready : reader.Ready) (left : Nat) :
    ¬ left < reader.intake.source.stalls := by
  rw [ready.steady]
  exact Nat.not_lt_zero left

/-- The next `count` runes have been consumed, or as many as there were. -/
structure Takes (before : Reader) (count : Nat) (after : Reader) : Prop where
  prior : before.Ready
  ready : after.Ready
  passes : Passes before ((runes before.coming).take count) after

variable {before after reader : Reader} {count : Nat}

theorem Ready.takes {passed : List Rune} (prior : before.Ready) (later : Later before after)
    (passes : Passes before passed after) : Takes before passed.length after := by
  refine ⟨prior, prior.of_later later, ?_⟩
  rw [(passes.take_runes_coming prior.sound later.sound).1]
  exact passes

theorem Takes.refl (ready : reader.Ready) : Takes reader 0 reader :=
  ⟨ready, ready, .refl reader⟩

theorem Takes.runes_coming (takes : Takes before count after) :
    runes after.coming = (runes before.coming).drop count := by
  have parts := takes.passes.runes_coming takes.prior.sound takes.ready.sound
  have whole := List.take_append_drop count (runes before.coming)
  exact (List.append_cancel_left (whole.trans parts)).symm

theorem Takes.upcoming_eq (takes : Takes before count after) :
    after.upcoming = before.upcoming.drop count := by
  unfold upcoming
  rw [takes.runes_coming, List.map_drop]

theorem Takes.same_upcoming (takes : Takes before 0 after) : after.upcoming = before.upcoming :=
  takes.upcoming_eq.trans List.drop_zero

theorem Takes.trans {first second third : Reader} {more : Nat} (earlier : Takes first count second)
    (later : Takes second more third) : Takes first (count + more) third := by
  refine ⟨earlier.prior, later.ready, ?_⟩
  rw [List.take_add, ← earlier.runes_coming]
  exact earlier.passes.trans later.passes

/-- More runes than there are to come are all of them. -/
theorem Takes.of_all {more : Nat} (takes : Takes before count after)
    (all : before.upcoming.length ≤ count) (enough : before.upcoming.length ≤ more) :
    Takes before more after := by
  refine ⟨takes.prior, takes.ready, ?_⟩
  rw [length_upcoming] at all enough
  rw [List.take_of_length_le enough, ← List.take_of_length_le all]
  exact takes.passes

structure Yields {Answer : Type} (reader : Reader) (answer : Answer) (count : Nat)
    (outcome : Answer × Reader) : Prop where
  answer_eq : outcome.1 = answer
  takes : Takes reader count outcome.2

theorem Yields.eq {Answer : Type} {answer : Answer} {outcome : Answer × Reader}
    (yields : Yields reader answer count outcome) :
    ∃ after, outcome = (answer, after) ∧ Takes reader count after :=
  ⟨outcome.2, Prod.ext yields.answer_eq rfl, yields.takes⟩

/-- An operation does the same where another has consumed nothing before it. -/
theorem Takes.yields {Answer : Type} {answer : Answer} {outcome : Answer × Reader}
    (takes : Takes before 0 after) (yields : Yields after answer count outcome) :
    Yields before answer count outcome := by
  have whole := takes.trans yields.takes
  rw [Nat.zero_add] at whole
  exact ⟨yields.answer_eq, whole⟩

/-! ### What each operation does -/

theorem Ready.next (ready : reader.Ready) : Yields reader reader.upcoming.head? 1 reader.next := by
  obtain ⟨answer, passes, _⟩ := ready.sound.next_steady ready.steady
  refine ⟨?_, ready, ready.of_later ready.sound.next.1, passes⟩
  rw [answer, upcoming, List.head?_map]

theorem Ready.acceptLiteral_of_prefix (ready : reader.Ready) {literal : List Char}
    (begins : literal <+: reader.upcoming) :
    Yields reader true literal.length (reader.acceptLiteral literal) := by
  obtain ⟨later, attempt⟩ := ready.sound.acceptLiteral literal
  generalize reader.acceptLiteral literal = outcome at later attempt ⊢
  rcases outcome with ⟨found, after⟩
  cases attempt with
  | taken passed _ passes same =>
      have takes := ready.takes later passes
      rw [← List.length_map Rune.char, same] at takes
      exact ⟨rfl, takes⟩
  | missed _ _ absent _ => exact absurd begins absent
  | cutShort _ _ _ fewer => exact absurd fewer (ready.no_stall _)

theorem Ready.acceptLiteral_of_not_prefix (ready : reader.Ready) {literal : List Char}
    (absent : ¬ literal <+: reader.upcoming) :
    Yields reader false 0 (reader.acceptLiteral literal) := by
  obtain ⟨later, attempt⟩ := ready.sound.acceptLiteral literal
  generalize reader.acceptLiteral literal = outcome at later attempt ⊢
  rcases outcome with ⟨found, after⟩
  cases attempt with
  | taken passed _ passes same =>
      rw [upcoming, passes.runes_coming ready.sound later.sound, List.map_append, same] at absent
      exact absurd (List.prefix_append _ _) absent
  | missed _ passes _ _ => exact ⟨rfl, ready.takes later passes⟩
  | cutShort _ passes _ _ => exact ⟨rfl, ready.takes later passes⟩

theorem Ready.acceptAnyLiteral (ready : reader.Ready) (literals : List (List Char)) :
    let found := literals.find? (·.isPrefixOf reader.upcoming)
    Yields reader found.isSome ((found.map List.length).getD 0)
      (reader.acceptAnyLiteral literals) := by
  intro found
  induction literals generalizing reader with
  | nil => exact ⟨rfl, .refl ready⟩
  | cons literal others ih =>
      unfold Reader.acceptAnyLiteral
      by_cases begins : literal <+: reader.upcoming
      · have first : found = some literal :=
          List.find?_cons_of_pos (List.isPrefixOf_iff_prefix.mpr begins)
        obtain ⟨after, same, takes⟩ := (ready.acceptLiteral_of_prefix begins).eq
        rw [same, first]
        exact ⟨rfl, takes⟩
      · have later : found = others.find? (·.isPrefixOf reader.upcoming) :=
          List.find?_cons_of_neg (fun first => begins (List.isPrefixOf_iff_prefix.mp first))
        obtain ⟨after, same, takes⟩ := (ready.acceptLiteral_of_not_prefix begins).eq
        have rest := ih takes.ready
        rw [takes.same_upcoming] at rest
        rw [same, later]
        exact takes.yields rest

theorem Ready.acceptRunWhen (ready : reader.Ready) (member : Char → Bool) :
    (reader.acceptRunWhen (.ofClass member)).1.accepted = reader.upcoming.takeWhile member ∧
      Takes reader (reader.upcoming.takeWhile member).length
        (reader.acceptRunWhen (.ofClass member)).2 := by
  obtain ⟨passed, ran⟩ := ready.sound.acceptRunFrom (.ofClass member) #[]
  have whole : reader.upcoming.takeWhile member = passed.map Rune.char := by
    obtain ⟨parts, fewer | nothing⟩ := ran.takeWhile_eq ready.sound
    · exact absurd fewer (ready.no_stall _)
    · rw [nothing, List.append_nil] at parts
      exact parts
  rw [whole, List.length_map]
  exact ⟨ran.chars_eq.symm, ready.takes ran.later ran.passes⟩

theorem Ready.accept (ready : reader.Ready) (set : RuneSet) :
    let holds := reader.upcoming.head?.any set.contains
    Yields reader holds (if holds then 1 else 0) (reader.accept set) := by
  intro holds
  have front : holds = ((runes reader.coming).map Rune.char).head?.any set.contains := rfl
  obtain ⟨later, finish⟩ := ready.sound.next
  unfold Reader.accept Reader.acceptWhen
  generalize reader.next = outcome at later finish ⊢
  rcases outcome with ⟨answer, after⟩
  cases finish with
  | read rune _ passes coming =>
      rw [coming, List.map_cons, List.head?_cons, Option.any_some] at front
      have test : RuneTest.ofClass set.contains #[] rune.char = holds := front.symm
      simp only [test]
      cases holds with
      | true => exact ⟨rfl, ready.takes later passes⟩
      | false =>
          have undone := (later.sound.backup 1).1
          exact ⟨rfl, ready.takes (later.trans undone) (passes.backup later.sound)⟩
  | ended _ passes _ nothing =>
      have coming := (passes.nil_eq ready.sound later.sound).2.1
      rw [← coming, nothing, Utf8.runes_nil] at front
      rw [front]
      exact ⟨rfl, ready.takes later passes⟩
  | stalled _ _ _ stalled _ => exact absurd stalled.1 (ready.no_stall _)

theorem Ready.seekPast_of_firstAt (ready : reader.Ready) {literal : List Char} {index : Nat}
    (one : FirstAt literal reader.upcoming index) :
    (reader.seekPast literal).1.found = true ∧
      Takes reader (index + literal.length) (reader.seekPast literal).2 := by
  have later := (ready.sound.seekPast literal).1
  have steady := (ready.of_later later).steady
  obtain ⟨skipped, matched, finds⟩ := ready.sound.finds (steady.trans ready.steady.symm)
  have takes := ready.takes later finds.past_passes
  rw [finds.length_found one] at takes
  exact ⟨(finds.found one).1, takes⟩

theorem Ready.seekPast_of_absent (ready : reader.Ready) {literal : List Char}
    (absent : ¬ literal <:+: reader.upcoming) :
    (reader.seekPast literal).1.found = false ∧
      Takes reader reader.upcoming.length (reader.seekPast literal).2 := by
  have later := (ready.sound.seekPast literal).1
  have steady := (ready.of_later later).steady
  obtain ⟨skipped, matched, finds⟩ := ready.sound.finds (steady.trans ready.steady.symm)
  obtain ⟨missed, length, nothing⟩ := finds.missed absent
  have takes := ready.takes later finds.past_passes
  rw [nothing, List.append_nil, length, ← length_upcoming] at takes
  exact ⟨missed, takes⟩

end RuneScan.Reader
