import RuneScan.Proofs.Reader.Literals
import RuneScan.Proofs.Reader.Operations
import RuneScan.Proofs.Reader.Unfolding

/-!
Where a search for a literal stops. The search tries the literal at every rune and passes the rune
when the attempt fails. An attempt that the source was not ready for fails like one at other runes,
so the search can pass a rune at which the literal stands after all. These runes are the only ones:
a search stops at the first occurrence exactly when the literal stands at none of the runes that
were passed unsettled.
-/

namespace RuneScan

open Utf8 (runes)

namespace Reader

/-- The runes, counted from the cursor, that a search passes after an attempt that the source was
not ready for. -/
def unsettled (literal : List Char) (reader : Reader) : List Nat :=
  match _missed : reader.acceptLiteral literal with
  | (true, _) => []
  | (false, after) =>
      match _taken : after.next with
      | (none, _) => []
      | (some _, last) =>
          let others := (unsettled literal last).map (· + 1)
          if reader.isCutShort literal then 0 :: others else others
termination_by reader.remaining
decreasing_by
  exact Nat.lt_of_lt_of_le (next_remaining_lt _taken) (acceptLiteral_missed _missed).1

theorem unsettled_eq (literal : List Char) (reader : Reader) : reader.unsettled literal =
    match reader.acceptLiteral literal with
    | (true, _) => []
    | (false, after) =>
        match after.next with
        | (none, _) => []
        | (some _, last) =>
            if reader.isCutShort literal then 0 :: (last.unsettled literal).map (· + 1)
            else (last.unsettled literal).map (· + 1) := by
  rw [unsettled]
  split
  · rename_i found
    rw [found]
  · rename_i after missed
    rw [missed]
    simp only
    split
    · rename_i taken
      rw [taken]
    · rename_i rune last taken
      rw [taken]

structure Sought (literal : List Char) (before : Reader) (skipped matched : List Rune)
    (search : Search) (after : Reader) : Prop where
  passes : Passes before (skipped ++ matched) after
  count_eq : search.count = (skipped ++ matched).length
  matched_eq : matched.map Rune.char = if search.found then literal else []
  unsettled_lt : ∀ index ∈ before.unsettled literal, index < skipped.length
  settled : ∀ index < skipped.length,
    literal <+: ((runes before.coming).map Rune.char).drop index →
      index ∈ before.unsettled literal
  stalls_lt : before.unsettled literal ≠ [] →
    after.intake.source.stalls < before.intake.source.stalls

/-- A rune is skipped after an attempt that failed: the literal does not stand there, or the attempt
was cut short. -/
structure Skips (literal : List Char) (before : Reader) (rune : Rune) (after : Reader) : Prop where
  later : Later before after
  passes : Passes before [rune] after
  front : runes before.coming = rune :: runes after.coming
  settled : literal <+: (runes before.coming).map Rune.char → before.isCutShort literal = true
  stalls_lt : before.isCutShort literal = true →
    after.intake.source.stalls < before.intake.source.stalls

theorem Sound.skips {literal : List Char} {before after last : Reader} {char : Char}
    (sound : before.Sound) (missed : before.acceptLiteral literal = (false, after))
    (taken : after.next = (some char, last)) : ∃ rune, Skips literal before rune last := by
  obtain ⟨later, attempt⟩ := sound.acceptLiteral literal
  rw [missed] at later attempt
  rcases later.sound.next with ⟨deeper, step⟩
  rw [taken] at deeper step
  cases step with
  | read rune _ passes front =>
      cases attempt with
      | missed _ same absent whole =>
          rw [(same.nil_eq sound later.sound).2.1] at front
          refine ⟨rune, later.trans deeper, same.trans passes, front, ?_, ?_⟩
          · intro begins
            exact absurd begins absent
          · intro cut
            rw [whole] at cut
            cases cut
      | cutShort _ same cut fewer =>
          rw [(same.nil_eq sound later.sound).2.1] at front
          refine ⟨rune, later.trans deeper, same.trans passes, front, fun _ => cut, ?_⟩
          intro _
          exact Nat.lt_of_le_of_lt deeper.stalls_le fewer

theorem Skips.sought {literal : List Char} {before last finish : Reader} {rune : Rune}
    {skipped matched : List Rune} {search : Search} (skips : Skips literal before rune last)
    (unsettled : before.unsettled literal =
      if before.isCutShort literal then 0 :: (last.unsettled literal).map (· + 1)
      else (last.unsettled literal).map (· + 1))
    (later : Later last finish) (sought : Sought literal last skipped matched search finish) :
    Sought literal before (rune :: skipped) matched ⟨search.count + 1, search.found⟩ finish := by
  have others : ∀ index,
      index + 1 ∈ before.unsettled literal ↔ index ∈ last.unsettled literal := by
    intro index
    rw [unsettled]
    by_cases cut : before.isCutShort literal = true
    · simp [cut]
    · simp [cut]
  refine ⟨skips.passes.trans sought.passes, ?_, sought.matched_eq, ?_, ?_, ?_⟩
  · change search.count + 1 = _
    rw [sought.count_eq]
    rfl
  · intro index member
    cases index with
    | zero => exact Nat.succ_pos _
    | succ index => exact Nat.succ_lt_succ (sought.unsettled_lt index ((others index).mp member))
  · intro index within stands
    cases index with
    | zero =>
        rw [unsettled, if_pos (skips.settled stands)]
        exact List.mem_cons_self
    | succ index =>
        apply (others index).mpr
        apply sought.settled index (Nat.lt_of_succ_lt_succ within)
        rw [skips.front] at stands
        exact stands
  · intro some
    by_cases cut : before.isCutShort literal = true
    · exact Nat.lt_of_le_of_lt later.stalls_le (skips.stalls_lt cut)
    · rw [unsettled, if_neg cut] at some
      have more : last.unsettled literal ≠ [] := by
        intro none
        rw [none] at some
        exact some rfl
      exact Nat.lt_of_lt_of_le (sought.stalls_lt more) skips.later.stalls_le

theorem Sound.seekPast {reader : Reader} (sound : reader.Sound) (literal : List Char) :
    Later reader (reader.seekPast literal).2 ∧ ∃ skipped matched,
      Sought literal reader skipped matched (reader.seekPast literal).1
        (reader.seekPast literal).2 := by
  -- Where the search skips no rune, no rune is unsettled and none is left to settle.
  have stop {reader after : Reader} {matched : List Rune} {search : Search}
      (none : reader.unsettled literal = []) (passes : Passes reader matched after)
      (count : search.count = matched.length)
      (same : matched.map Rune.char = if search.found then literal else []) :
      Sought literal reader [] matched search after := by
    refine ⟨passes, count, same, ?_, ?_, ?_⟩
    · intro index member
      rw [none] at member
      cases member
    · intro index within
      cases within
    · intro some
      exact absurd none some
  fun_induction Reader.seekPast literal reader with
  | case1 reader after found =>
      obtain ⟨later, attempt⟩ := sound.acceptLiteral literal
      have none : reader.unsettled literal = [] := by rw [unsettled_eq, found]
      rw [found] at later attempt
      cases attempt with
      | taken passed _ passes same =>
          refine ⟨later, [], passed, stop none passes ?_ same⟩
          rw [← same, List.length_map]
  | case2 reader after missed last taken =>
      obtain ⟨later, attempt⟩ := sound.acceptLiteral literal
      rw [missed] at later attempt
      rcases later.sound.next with ⟨deeper, finish⟩
      rw [taken] at deeper finish
      have still : Passes reader [] after := by
        cases attempt with
        | missed _ passes _ _ => exact passes
        | cutShort _ passes _ _ => exact passes
      have passes : Passes reader [] last := by
        cases finish with
        | ended _ passes _ _ => exact still.trans passes
        | stalled _ passes _ _ _ => exact still.trans passes
      have none : reader.unsettled literal = [] := by
        rw [unsettled_eq, missed]
        simp only [taken]
      exact ⟨later.trans deeper, [], [], stop none passes rfl rfl⟩
  | case3 reader after missed rune last taken search finish result ih =>
      obtain ⟨rune, skips⟩ := sound.skips missed taken
      obtain ⟨later, skipped, matched, sought⟩ := ih skips.later.sound
      rw [result] at later sought
      refine ⟨skips.later.trans later, rune :: skipped, matched, skips.sought ?_ later sought⟩
      rw [unsettled_eq, missed]
      simp only [taken]

theorem Sought.seekTo {literal : List Char} {reader : Reader} {skipped matched : List Rune}
    (sought : Sought literal reader skipped matched (reader.seekPast literal).1
      (reader.seekPast literal).2) (later : (reader.seekPast literal).2.Sound) :
    (reader.seekTo literal).1 = ⟨skipped.length, (reader.seekPast literal).1.found⟩ ∧
      Passes reader skipped (reader.seekTo literal).2 := by
  have count := sought.count_eq
  have same := sought.matched_eq
  have passes := sought.passes
  rw [List.length_append] at count
  unfold Reader.seekTo
  generalize reader.seekPast literal = result at later count same passes ⊢
  rcases result with ⟨⟨total, found⟩, after⟩
  simp only at later count same passes ⊢
  cases found with
  | true =>
      have length : matched.length = literal.length := by
        rw [if_pos rfl] at same
        rw [← same, List.length_map]
      rw [if_pos rfl, ← length, count, Nat.add_sub_cancel]
      exact ⟨rfl, passes.backup_append later⟩
  | false =>
      have nothing : matched = [] := List.map_eq_nil_iff.mp same
      rw [nothing] at count passes
      rw [List.append_nil] at passes
      rw [if_neg Bool.false_ne_true, count]
      exact ⟨rfl, passes⟩

/-- A search during which the source was ready at every read settles every rune it passes. -/
theorem Sound.unsettled_ready {reader : Reader} (sound : reader.Sound) {literal : List Char}
    (ready : (reader.seekPast literal).2.intake.source.stalls = reader.intake.source.stalls) :
    reader.unsettled literal = [] := by
  obtain ⟨_, skipped, matched, sought⟩ := sound.seekPast literal
  by_cases none : reader.unsettled literal = []
  · exact none
  · have fewer := sought.stalls_lt none
    rw [ready] at fewer
    exact absurd fewer (Nat.lt_irrefl _)

end Reader

/-! ### Where a search stops -/

/-- The literal stands in the text at its end only, and nowhere if it was not found. -/
def EndsAtFirst (literal text : List Char) (found : Bool) : Prop :=
  ∀ index, literal <+: text.drop index → found = true ∧ index + literal.length = text.length

theorem infix_iff_drop {literal text : List Char} :
    literal <:+: text ↔ ∃ index, literal <+: text.drop index := by
  rw [List.infix_iff_prefix_suffix]
  constructor
  · rintro ⟨tail, begins, ends⟩
    rw [List.suffix_iff_eq_drop] at ends
    rw [ends] at begins
    exact ⟨_, begins⟩
  · rintro ⟨index, begins⟩
    exact ⟨_, begins, List.drop_suffix _ _⟩

theorem endsAtFirst_found {literal text : List Char} (nonempty : literal ≠ []) :
    EndsAtFirst literal (text ++ literal) true ↔ ¬ literal <:+: text ++ literal.dropLast := by
  have positive : 0 < literal.length := List.length_pos_iff.mpr nonempty
  have short : text ++ literal.dropLast = (text ++ literal).dropLast :=
    (List.dropLast_append_of_ne_nil nonempty).symm
  rw [short, infix_iff_drop]
  generalize text ++ literal = whole
  have earlier (index : Nat) : literal <+: whole.dropLast.drop index ↔
      literal <+: whole.drop index ∧ index + literal.length < whole.length := by
    rw [List.dropLast_eq_take, List.drop_take, List.prefix_take_iff]
    apply and_congr_right
    intro _
    omega
  constructor
  · rintro first ⟨index, begins⟩
    obtain ⟨stands, before⟩ := (earlier index).mp begins
    have ends := (first index stands).2
    omega
  · intro absent index stands
    have within := stands.length_le
    rw [List.length_drop] at within
    rcases Nat.lt_or_ge (index + literal.length) whole.length with before | after
    · exact absurd ⟨index, (earlier index).mpr ⟨stands, before⟩⟩ absent
    · exact ⟨rfl, by omega⟩

theorem endsAtFirst_missed {literal text : List Char} :
    EndsAtFirst literal text false ↔ ¬ literal <:+: text := by
  rw [infix_iff_drop]
  constructor
  · rintro nowhere ⟨index, begins⟩
    cases (nowhere index begins).1
  · intro nowhere index begins
    exact absurd ⟨index, begins⟩ nowhere

/-- The search passes over the literal: it stands at a rune that was passed unsettled. -/
def Overlooks (literal : List Char) (reader : Reader) (passed : List Rune) : Prop :=
  ∃ index ∈ reader.unsettled literal, literal <+: (passed.map Rune.char).drop index

theorem Reader.Sought.endsAtFirst_iff {literal : List Char} {before after : Reader}
    {skipped matched : List Rune} {search : Search}
    (sought : Sought literal before skipped matched search after) (sound : before.Sound)
    (later : after.Sound) (nonempty : literal ≠ []) :
    EndsAtFirst literal ((skipped ++ matched).map Rune.char) search.found ↔
      ¬ Overlooks literal before (skipped ++ matched) := by
  have positive : 0 < literal.length := List.length_pos_iff.mpr nonempty
  have length : matched.length = if search.found then literal.length else 0 := by
    rw [← List.length_map Rune.char, sought.matched_eq]
    split <;> rfl
  constructor
  · rintro first ⟨index, member, stands⟩
    obtain ⟨found, ends⟩ := first index stands
    have early := sought.unsettled_lt index member
    rw [found, if_pos rfl] at length
    rw [List.length_map, List.length_append] at ends
    omega
  · intro settled index stands
    have within := stands.length_le
    rw [List.length_drop, List.length_map, List.length_append] at within
    rw [List.length_map, List.length_append]
    -- An occurrence at a skipped rune is overlooked; one after them can only be the literal taken.
    by_cases early : index < skipped.length
    · have coming := sought.passes.runes_coming sound later
      have member := sought.settled index early (by
        rw [coming, List.map_append, List.drop_append_of_le_length]
        · exact stands.trans (List.prefix_append _ _)
        · rw [List.length_map, List.length_append]
          omega)
      exact absurd ⟨index, member, stands⟩ settled
    · cases found : search.found with
      | true =>
          rw [found, if_pos rfl] at length
          exact ⟨rfl, by omega⟩
      | false =>
          rw [found, if_neg Bool.false_ne_true] at length
          omega

theorem seek_stops_iff_settled {source : Source} (honest : source.Honest) (sizing : Sizing)
    (commands : List Command) {literal : List Char} (nonempty : literal ≠ []) :
    let reader := ((Reader.start source sizing).performAll commands).2
    let past := reader.seekPast literal
    let front := reader.seekTo literal
    ∃ passed kept : List Rune,
      Reader.Passes reader passed past.2 ∧ Reader.Passes reader kept front.2 ∧
      (EndsAtFirst literal (passed.map Rune.char) past.1.found ↔
        ¬ Overlooks literal reader passed) ∧
      (¬ literal <:+:
          kept.map Rune.char ++ (if front.1.found then literal.dropLast else []) ↔
        ¬ Overlooks literal reader passed) := by
  intro reader past front
  have sound : reader.Sound :=
    ((Reader.performAll_reaches (Reader.start source sizing) commands).later
      (Reader.sound_start honest sizing)).sound
  obtain ⟨later, skipped, matched, sought⟩ := sound.seekPast literal
  obtain ⟨answer, kept⟩ := sought.seekTo later.sound
  have law := sought.endsAtFirst_iff sound later.sound nonempty
  refine ⟨skipped ++ matched, skipped, sought.passes, kept, law, ?_⟩
  rw [← law]
  have found : front.1.found = past.1.found := by
    change (reader.seekTo literal).1.found = past.1.found
    rw [answer]
  rw [found, List.map_append, sought.matched_eq]
  change _ ↔ EndsAtFirst literal (skipped.map Rune.char ++ if past.1.found then literal else []) _
  cases past.1.found with
  | true =>
      rw [if_pos rfl, if_pos rfl]
      exact (endsAtFirst_found nonempty).symm
  | false =>
      rw [if_neg Bool.false_ne_true, if_neg Bool.false_ne_true, List.append_nil]
      exact endsAtFirst_missed.symm

/-- The source is not ready between the two runes of the literal: the search passes both of them and
does not find it. -/
theorem seek_stops_iff_settled_stalled :
    let source := Source.ofEvents [.data [0x61], .failure ⟨.wouldBlock, none⟩, .data [0x62]]
    let reader := ((Reader.start source .standard).performAll []).2
    let past := reader.seekPast ['a', 'b']
    let front := reader.seekTo ['a', 'b']
    source.Honest ∧ ['a', 'b'] ≠ [] ∧ past.1 = ⟨2, false⟩ ∧ past.2.pending = [0x61, 0x62] ∧
    reader.unsettled ['a', 'b'] = [0] ∧
    ∃ passed kept : List Rune,
      Reader.Passes reader passed past.2 ∧ Reader.Passes reader kept front.2 ∧
      (EndsAtFirst ['a', 'b'] (passed.map Rune.char) past.1.found ↔
        ¬ Overlooks ['a', 'b'] reader passed) ∧
      (¬ ['a', 'b'] <:+:
          kept.map Rune.char ++ (if front.1.found then ['a', 'b'].dropLast else []) ↔
        ¬ Overlooks ['a', 'b'] reader passed) := by
  intro source reader past front
  have honest : source.Honest := by decide
  have nonempty : ['a', 'b'] ≠ [] := by decide
  have answer : past.1 = ⟨2, false⟩ := by decide +kernel
  have pending : past.2.pending = [0x61, 0x62] := by decide +kernel
  have unsettled : reader.unsettled ['a', 'b'] = [0] := by decide +kernel
  exact ⟨honest, nonempty, answer, pending, unsettled,
    seek_stops_iff_settled honest .standard [] nonempty⟩

end RuneScan
