import Mathlib.Algebra.GroupWithZero.Nat
import RuneScan.Proofs.Reader.Calls
import RuneScan.Proofs.Reader.Runs
import RuneScan.Proofs.Reader.Unfolding

/-!
A run of a test takes as many runes as the test holds for, one after the other. The test is shown
each of them once, and after them the rune it fails for, which is put back; if it fails for none, no
further rune could be had. A predicate with a memory of its own is shown the same runes in the same
order. A run of a class that a stall cut short can be taken up again, and the counts of all the
calls add up to the longest run.
-/

namespace RuneScan

open Utf8 (runes)

/-! ### Predicates with a memory -/

/-- A predicate that may remember what it was shown: from what it remembers and a rune, a verdict
and what it remembers from then on. -/
abbrev Judge (Memory : Type) := Memory → Char → Bool × Memory

namespace Judge

variable {Memory : Type}

def remember (judge : Judge Memory) (memory : Memory) (shown : List Char) : Memory :=
  shown.foldl (fun memory rune => (judge memory rune).2) memory

/-- The verdicts of a predicate by the runes it was shown. -/
def test (judge : Judge Memory) (memory : Memory) : RuneTest :=
  fun shown rune => (judge (judge.remember memory shown.toList) rune).1

def negate (judge : Judge Memory) : Judge Memory :=
  fun memory rune => (!(judge memory rune).1, (judge memory rune).2)

theorem remember_append (judge : Judge Memory) (memory : Memory) (shown more : List Char) :
    judge.remember memory (shown ++ more) = judge.remember (judge.remember memory shown) more :=
  List.foldl_append

end Judge

namespace Reader

variable {Memory : Type}

def acceptBy (judge : Judge Memory) (memory : Memory) (reader : Reader) : Bool × Memory × Reader :=
  match reader.next with
  | (none, after) => (false, memory, after)
  | (some rune, after) =>
      match judge memory rune with
      | (true, remembered) => (true, remembered, after)
      | (false, remembered) => (false, remembered, after.backup 1)

theorem acceptBy_remaining_lt {judge : Judge Memory} {memory remembered : Memory}
    {reader after : Reader} (accepted : reader.acceptBy judge memory = (true, remembered, after)) :
    after.remaining < reader.remaining := by
  unfold acceptBy at accepted
  split at accepted
  · cases accepted
  · rename_i rune last taken
    split at accepted
    · cases accepted
      exact next_remaining_lt taken
    · cases accepted

def acceptRunBy (judge : Judge Memory) (memory : Memory) (reader : Reader) :
    Nat × Memory × Reader :=
  match _accepted : reader.acceptBy judge memory with
  | (true, remembered, after) =>
      let (count, last, finish) := acceptRunBy judge remembered after
      (count + 1, last, finish)
  | (false, remembered, after) => (0, remembered, after)
termination_by reader.remaining
decreasing_by exact acceptBy_remaining_lt _accepted

def skipUntilBy (judge : Judge Memory) (memory : Memory) (reader : Reader) :
    Nat × Memory × Reader :=
  reader.acceptRunBy judge.negate memory

theorem acceptRunBy_unfold (judge : Judge Memory) (memory : Memory) (reader : Reader) :
    reader.acceptRunBy judge memory =
      match reader.acceptBy judge memory with
      | (true, remembered, after) =>
          let others := after.acceptRunBy judge remembered
          (others.1 + 1, others.2)
      | (false, remembered, after) => (0, remembered, after) := by
  rw [acceptRunBy]
  split
  · rename_i remembered after accepted
    rw [accepted]
  · rename_i remembered after refused
    rw [refused]

/-- The loop over the predicate is the run of its verdicts, and the predicate remembers the runes
that the run was shown: each of them once and in order. -/
theorem acceptRunBy_eq (judge : Judge Memory) (memory : Memory) (shown : Array Char)
    (reader : Reader) :
    reader.acceptRunBy judge (judge.remember memory shown.toList) =
      let outcome := reader.acceptRunFrom (judge.test memory) shown
      (outcome.1.count, judge.remember memory (shown.toList ++ outcome.1.shown), outcome.2) := by
  have step {reader after : Reader} {shown : Array Char} {rune : Char}
      (taken : reader.next = (some rune, after)) :
      reader.acceptBy judge (judge.remember memory shown.toList) =
        if judge.test memory shown rune then
          (true, judge.remember memory (shown.push rune).toList, after)
        else
          (false, judge.remember memory (shown.push rune).toList, after.backup 1) := by
    rw [Array.toList_push, judge.remember_append]
    unfold acceptBy Judge.test
    rw [taken]
    generalize judge.remember memory shown.toList = known
    change (match judge known rune with
      | (true, remembered) => (true, remembered, after)
      | (false, remembered) => (false, remembered, after.backup 1)) =
      if (judge known rune).1 then (true, (judge known rune).2, after)
      else (false, (judge known rune).2, after.backup 1)
    rcases judge known rune with ⟨verdict, remembered⟩
    cases verdict <;> rfl
  fun_induction acceptRunFrom (judge.test memory) shown reader with
  | case1 shown reader after taken =>
      have missed : reader.acceptBy judge (judge.remember memory shown.toList) =
          (false, judge.remember memory shown.toList, after) := by
        rw [acceptBy, taken]
      rw [acceptRunBy_unfold, missed]
      change (0, _, after) = (0, judge.remember memory (shown.toList ++ []), after)
      rw [List.append_nil]
  | case2 shown reader rune after taken holds run last result ih =>
      rw [acceptRunBy_unfold, step taken, if_pos holds]
      simp only [ih, result]
      rw [Array.toList_push, List.append_assoc]
      rfl
  | case3 shown reader rune after taken fails =>
      rw [acceptRunBy_unfold, step taken, if_neg fails, Array.toList_push]
      rfl

/-- A run that no rune stopped asked for one more than it took. -/
theorem acceptRunFrom_unstopped {test : RuneTest} {shown : Array Char} {reader : Reader}
    (unstopped : (reader.acceptRunFrom test shown).1.rejected = none) :
    ∃ last, Reaches reader [] last ∧ last.next = (none, (reader.acceptRunFrom test shown).2) := by
  fun_induction acceptRunFrom test shown reader with
  | case1 shown reader after taken => exact ⟨reader, .refl reader, taken⟩
  | case2 shown reader rune after taken holds run finish result ih =>
      rw [result] at ih
      obtain ⟨last, reaches, missed⟩ := ih unstopped
      exact ⟨last, (leads_of_next taken).reaches.trans reaches, missed⟩
  | case3 shown reader rune after taken fails => cases unstopped

end Reader

open Reader (Awaits Consumes MetStall RunsDry)

structure LongestRun (source : Source) (cut : List UInt8) (rest : List Rune) (test : RuneTest)
    (reader : Reader) (outcome : Run × Reader) : Prop where
  consumes : Consumes source cut rest outcome.1.count reader outcome.2
  /-- The test was shown the runes consumed in order, and holds for each of them. -/
  accepted_eq : outcome.1.accepted = (rest.take outcome.1.count).map Rune.char
  accepts : test.Accepts #[] outcome.1.accepted
  rejects : ∀ char, outcome.1.rejected = some char →
    ((rest.drop outcome.1.count).map Rune.char).head? = some char ∧
      test outcome.1.accepted.toArray char = false
  /-- If no rune stopped the run, none could be had: all are consumed, or the source was not ready. -/
  unstopped : outcome.1.rejected = none → RunsDry reader outcome.2 ∧
    (outcome.2.error?.isSome = true → outcome.1.count = rest.length)

namespace Reader

variable {source : Source} {sizing : Sizing} {texts : List (List UInt8)} {reader : Reader}

theorem Reaches.longestRun (reaches : Reaches (start source sizing) texts reader)
    (honest : source.Honest) (test : RuneTest) :
    LongestRun source texts.flatten (runes reader.coming) test reader
      (reader.acceptRunWhen test) := by
  have sound := (reaches.later (sound_start honest sizing)).sound
  have laid := reaches.laid (laid_start source sizing)
  obtain ⟨passed, ran⟩ : ∃ passed, Ran test #[] reader passed (reader.acceptRunWhen test) :=
    sound.acceptRunFrom test #[]
  have consumes := reaches.consumes honest ran.passes ran.later.sound
  obtain ⟨taken, left⟩ := ran.passes.take_runes_coming sound ran.later.sound
  have stop := ran.stop
  rw [ran.length_eq] at consumes taken left
  refine ⟨consumes, ?_, ran.accepts, ?_, ?_⟩
  · rw [taken]
    exact ran.chars_eq.symm
  · intro char stopped
    have shown : (#[] : Array Char) ++ (reader.acceptRunWhen test).1.accepted =
        (reader.acceptRunWhen test).1.accepted.toArray := by simp
    rw [stopped, shown] at stop
    cases stop with
    | rejected rune others front fails =>
        rw [left, front]
        exact ⟨rfl, fails⟩
  · intro unstopped
    obtain ⟨last, onward, missed⟩ : ∃ last, Reaches reader [] last ∧
        last.next = (none, (reader.acceptRunWhen test).2) := acceptRunFrom_unstopped unstopped
    have dry := (onward.later sound).sound.next_missed (onward.laid laid) missed
    refine ⟨onward.runsDry (leads_of_next missed).reaches sound laid dry, ?_⟩
    intro recorded
    rw [unstopped] at stop
    cases stop with
    | ended _ nothing =>
        rw [nothing, Utf8.runes_nil] at left
        exact Nat.le_antisymm consumes.count_le (List.drop_eq_nil_iff.mp left)
    | stalled live _ =>
        rw [live] at recorded
        cases recorded

/-! ### Taking up a run again -/

/-- Makes a run of the test again and again, each from where the one before it ended, and gives the
counts. -/
def retryRun (test : RuneTest) : Nat → Reader → List Nat × Reader
  | 0, reader => ([], reader)
  | calls + 1, reader =>
      let (run, after) := reader.acceptRunWhen test
      let (counts, last) := retryRun test calls after
      (run.count :: counts, last)

/-- Some runs of a class in a row have passed runes of the class, and each of them has used up a
stall of the source, or no rune of the class follows. -/
structure Retried (member : Char → Bool) (calls : Nat) (before : Reader)
    (outcome : List Nat × Reader) : Prop where
  later : Later before outcome.2
  reaches : Reaches before [] outcome.2
  passes : ∃ passed, Passes before passed outcome.2 ∧ passed.length = outcome.1.sum ∧
    ((runes before.coming).map Rune.char).takeWhile member =
      passed.map Rune.char ++ ((runes outcome.2.coming).map Rune.char).takeWhile member
  settles : outcome.2.intake.source.stalls + calls ≤ before.intake.source.stalls ∨
    ((runes outcome.2.coming).map Rune.char).takeWhile member = []

theorem Sound.retryRun {reader : Reader} (sound : reader.Sound) (member : Char → Bool)
    (calls : Nat) : Retried member calls reader (reader.retryRun (.ofClass member) calls) := by
  induction calls generalizing reader with
  | zero => exact ⟨.refl sound, .refl reader, ⟨[], .refl reader, rfl, rfl⟩, .inl (Nat.le_refl _)⟩
  | succ calls ih =>
      obtain ⟨passed, ran⟩ : ∃ passed, Ran (.ofClass member) #[] reader passed
          (reader.acceptRunWhen (.ofClass member)) := sound.acceptRunFrom (.ofClass member) #[]
      have reaches : Reaches reader [] (reader.acceptRunWhen (.ofClass member)).2 :=
        (acceptRunFrom_leads (.ofClass member) #[] reader).reaches
      obtain ⟨split, settled⟩ := ran.takeWhile_eq sound
      have others : Retried member calls (reader.acceptRunWhen (.ofClass member)).2
          (Reader.retryRun (.ofClass member) calls (reader.acceptRunWhen (.ofClass member)).2) :=
        ih ran.later.sound
      obtain ⟨more, onward, total, rest⟩ := others.passes
      rw [rest, ← List.append_assoc, ← List.map_append] at split
      refine ⟨ran.later.trans others.later, reaches.trans others.reaches,
        ⟨passed ++ more, ran.passes.trans onward, ?_, split⟩, ?_⟩
      · rw [List.length_append, ran.length_eq, total]
        exact List.sum_cons.symm
      · rcases settled with fewer | nothing
        · rcases others.settles with left | nothing
          · exact .inl (Nat.le_trans (Nat.succ_le_succ left) fewer)
          · exact .inr nothing
        · rw [nothing] at rest
          exact .inr (List.append_eq_nil_iff.mp rest.symm).2

end Reader

structure AddsUp (source : Source) (cut : List UInt8) (rest : List Rune) (member : Char → Bool)
    (calls : Nat) (reader : Reader) (outcome : List Nat × Reader) : Prop where
  consumes : Consumes source cut rest outcome.1.sum reader outcome.2
  sum_le : outcome.1.sum ≤ ((rest.map Rune.char).takeWhile member).length
  /-- When the source was not ready fewer times than there were calls, the runs have passed the longest
  front in the class. -/
  sum_eq : (reader.outcomesSince outcome.2).countP Outcome.isTransient < calls →
    outcome.1.sum = ((rest.map Rune.char).takeWhile member).length
  enough : reader.intake.source.stalls < calls →
    outcome.1.sum = ((rest.map Rune.char).takeWhile member).length

theorem Reader.Reaches.addsUp {source : Source} {sizing : Sizing} {texts : List (List UInt8)}
    {reader : Reader} (reaches : Reader.Reaches (Reader.start source sizing) texts reader)
    (honest : source.Honest) (member : Char → Bool) (calls : Nat) :
    AddsUp source texts.flatten (runes reader.coming) member calls reader
      (reader.retryRun (.ofClass member) calls) := by
  have sound := (reaches.later (Reader.sound_start honest sizing)).sound
  have laid := reaches.laid (Reader.laid_start source sizing)
  have retried := sound.retryRun member calls
  generalize reader.retryRun (.ofClass member) calls = outcome at retried ⊢
  obtain ⟨passed, passes, total, split⟩ := retried.passes
  have counted := retried.reaches.stalls_eq laid
  have complete (settled : ¬outcome.2.intake.source.stalls + calls ≤ reader.intake.source.stalls) :
      outcome.1.sum = (((runes reader.coming).map Rune.char).takeWhile member).length := by
    have nothing := retried.settles.resolve_left settled
    rw [split, nothing, List.append_nil, List.length_map, total]
  constructor
  · rw [← total]
    exact reaches.consumes honest passes retried.later.sound
  · rw [split, List.length_append, List.length_map, total]
    exact Nat.le_add_right _ _
  · intro few
    exact complete (by omega)
  · intro many
    exact complete (by omega)

/-! ### Sets -/

/-- A rune is in a set if the text or the list has it, if it is the one rune, or if its code point
lies in the range. -/
def RuneSet.Has : RuneSet → Char → Prop
  | .ofText text, rune => rune ∈ text.toList
  | .single member, rune => rune = member
  | .ofList members, rune => rune ∈ members
  | .between first last, rune => first.toNat ≤ rune.toNat ∧ rune.toNat ≤ last.toNat

theorem RuneSet.contains_iff (set : RuneSet) (rune : Char) :
    set.contains rune = true ↔ set.Has rune := by
  cases set with
  | ofText text => exact List.contains_iff_mem
  | single member => exact beq_iff_eq
  | ofList members => exact List.contains_iff_mem
  | between first last =>
      change (decide (first ≤ rune) && decide (rune ≤ last)) = true ↔ _
      rw [Bool.and_eq_true, decide_eq_true_iff, decide_eq_true_iff]
      exact Iff.rfl

/-- A test that holds for what the set has is the test that the set makes. -/
theorem RuneSet.contains_eq {set : RuneSet} {member : Char → Bool}
    (has : ∀ rune, member rune = true ↔ set.Has rune) : set.contains = member :=
  funext fun rune => Bool.eq_iff_iff.mpr ((set.contains_iff rune).trans (has rune).symm)

/-! ### The law -/

structure RunsLongest (source : Source) (cut : List UInt8) (rest : List Rune) (reader : Reader) :
    Prop where
  accepts : ∀ test, LongestRun source cut rest test reader (reader.acceptRunWhen test)
  skips : ∀ test, LongestRun source cut rest test.negate reader (reader.skipUntilWhen test)
  /-- A predicate with a memory is called on the runes that the run was shown and on no others: what
  it remembers in the end is what these leave behind. -/
  judges : ∀ (Memory : Type) (judge : Judge Memory) (memory : Memory),
    let outcome := reader.acceptRunWhen (judge.test memory)
    reader.acceptRunBy judge memory =
      (outcome.1.count, judge.remember memory outcome.1.shown, outcome.2)
  judgesUntil : ∀ (Memory : Type) (judge : Judge Memory) (memory : Memory),
    let outcome := reader.skipUntilWhen (judge.test memory)
    reader.skipUntilBy judge memory =
      (outcome.1.count, judge.remember memory outcome.1.shown, outcome.2)
  /-- A set stands for every test that holds for just the runes it has. -/
  sets : ∀ (set : RuneSet) (member : Char → Bool),
    (∀ rune, member rune = true ↔ set.Has rune) →
    let taken := reader.acceptRunWhen (.ofClass member)
    let skipped := reader.skipUntilWhen (.ofClass member)
    reader.acceptRun set = (taken.1.count, taken.2) ∧
      reader.skipUntil set = (skipped.1.count, skipped.2)
  retries : ∀ member calls,
    AddsUp source cut rest member calls reader (reader.retryRun (.ofClass member) calls)
  retriesUntil : ∀ member calls,
    AddsUp source cut rest (fun rune => !member rune) calls reader
      (reader.retryRun (RuneTest.ofClass member).negate calls)

/-- In every state that commands lead to, runs take the longest front that the test holds for. -/
theorem runs_are_longest {source : Source} (honest : source.Honest) (sizing : Sizing)
    (commands : List Command) :
    let fresh := Reader.start source sizing
    let cut := (fresh.cutByAll commands).flatten
    let reader := (fresh.performAll commands).2
    ∃ rest, Awaits source cut reader rest ∧ RunsLongest source cut rest reader := by
  intro fresh cut reader
  have reaches : Reader.Reaches fresh (fresh.cutByAll commands) reader :=
    Reader.performAll_reaches fresh commands
  refine ⟨runes reader.coming, reaches.awaits honest, ?_⟩
  constructor
  · exact reaches.longestRun honest
  · intro test
    exact reaches.longestRun honest test.negate
  · intro Memory judge memory
    exact reader.acceptRunBy_eq judge memory #[]
  · intro Memory judge memory
    exact reader.acceptRunBy_eq judge.negate memory #[]
  · intro set member has
    rw [← RuneSet.contains_eq has]
    exact ⟨rfl, rfl⟩
  · exact reaches.addsUp honest
  · intro member calls
    exact reaches.addsUp honest (fun rune => !member rune) calls

/-- The source is not ready behind two runes of three, and a second run takes the third. A predicate
that writes down what it is shown, and accepts one rune, is shown two. -/
theorem runs_are_longest_stalled :
    let source := Source.ofEvents [.data [0x31], .data [0x32], .failure ⟨.wouldBlock, none⟩,
      .data [0x33, 0x61]]
    let fresh := Reader.start source ⟨4, 4⟩
    let cut := (fresh.cutByAll []).flatten
    let reader := (fresh.performAll []).2
    let once : Judge (List Char) := fun written rune => (written.isEmpty, written ++ [rune])
    source.Honest ∧ (reader.retryRun (.ofClass (· != 'a')) 2).1 = [2, 1] ∧
      (reader.acceptRunWhen (once.test [])).1.count = 1 ∧
      (reader.acceptRunBy once []).2.1 = ['1', '2'] ∧
      ∃ rest, Awaits source cut reader rest ∧ RunsLongest source cut rest reader := by
  intro source fresh cut reader once
  have honest : source.Honest := by decide
  have counts : (reader.retryRun (.ofClass (· != 'a')) 2).1 = [2, 1] := by decide +kernel
  have one : (reader.acceptRunWhen (once.test [])).1.count = 1 := by decide +kernel
  have shown : (reader.acceptRunWhen (once.test [])).1.shown = ['1', '2'] := by decide +kernel
  obtain ⟨rest, awaits, longest⟩ := runs_are_longest honest ⟨4, 4⟩ []
  have judged : reader.acceptRunBy once [] = ((reader.acceptRunWhen (once.test [])).1.count,
      once.remember [] (reader.acceptRunWhen (once.test [])).1.shown,
      (reader.acceptRunWhen (once.test [])).2) := longest.judges _ once []
  have written : (reader.acceptRunBy once []).2.1 = ['1', '2'] := by
    rw [judged, shown]
    rfl
  exact ⟨honest, counts, one, written, rest, awaits, longest⟩

end RuneScan
