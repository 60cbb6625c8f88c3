import RuneScan.Proofs.Reader.Calls
import RuneScan.Proofs.Replay
import RuneScan.Proofs.Search
import RuneScan.Proofs.Text.Occurrence

/-!
A search during which the source was ready at every read finds the first occurrence of the literal
among the runes to come, or comes to the end of the stream and finds none. One search stops behind the
occurrence, the other in front of it; the runes that the other gives back are decided, so the literal
can be taken there whatever the source does next.
-/

namespace RuneScan

open Utf8 (Decided runes)

namespace Reader

/-! ### Coming to the end -/

theorem acceptLiteral_nil (reader : Reader) : reader.acceptLiteral [] = (true, reader) := rfl

/-- A search that finds nothing looks for some rune at least, and ends with the stream unless the
source was not ready. -/
theorem Sound.seekPast_missed {reader : Reader} (sound : reader.Sound) {literal : List Char}
    (missed : (reader.seekPast literal).1.found = false) : literal ≠ [] ∧
      ((reader.seekPast literal).2.intake.source.stalls = reader.intake.source.stalls →
        (reader.seekPast literal).2.coming = []) := by
  fun_induction Reader.seekPast literal reader with
  | case1 reader after found => cases missed
  | case2 reader after failed last taken =>
      constructor
      · rintro rfl
        rw [acceptLiteral_nil] at failed
        cases failed
      · intro ready
        have attempt := sound.acceptLiteral literal
        rw [failed] at attempt
        have finish := attempt.1.sound.next.2
        rw [taken] at finish
        cases finish with
        | ended _ _ _ nothing => exact nothing
        | stalled _ _ _ stalled _ =>
            have fewer := Nat.lt_of_lt_of_le stalled.1 attempt.1.stalls_le
            rw [ready] at fewer
            exact absurd fewer (Nat.lt_irrefl _)
  | case3 reader after failed rune last taken search finish result ih =>
      obtain ⟨rune, skips⟩ := sound.skips failed taken
      obtain ⟨later, _⟩ := skips.later.sound.seekPast literal
      rw [result] at ih later
      obtain ⟨nonempty, ends⟩ := ih skips.later.sound missed
      refine ⟨nonempty, ?_⟩
      intro ready
      have first := skips.later.stalls_le
      have second := later.stalls_le
      simp only at ready second ends
      exact ends (by omega)

/-! ### Taking what was given back -/

/-- As many runes as the literal has, and the same, are the literal. -/
theorem acceptLiteral_of_take {literal : List Char} {reader : Reader}
    (same : (reader.take literal.length).1 = literal) :
    (reader.acceptLiteral literal).1 = true := by
  induction literal generalizing reader with
  | nil => rfl
  | cons expected others ih =>
      rw [List.length_cons] at same
      unfold take at same
      unfold acceptLiteral
      generalize reader.next = result at same ⊢
      rcases result with ⟨answer, after⟩
      cases answer with
      | none => cases same
      | some rune =>
          obtain ⟨matched, rest⟩ := List.cons.inj same
          have whole := ih rest
          simp only [matched, if_true]
          generalize after.acceptLiteral others = result at whole ⊢
          rcases result with ⟨found, last⟩
          cases whole
          rfl

/-- A literal that has been passed and given back can be taken again. -/
theorem Certain.acceptLiteral_backup {before after : Reader} {skipped matched : List Rune}
    (certain : after.Certain) (passes : Passes before (skipped ++ matched) after) :
    ((after.backup matched.length).acceptLiteral (matched.map Rune.char)).1 = true := by
  have decided := certain.decided_backup matched.length
  have kept : (runes after.pending).length - matched.length =
      (runes before.pending ++ skipped).length := by
    rw [passes.runes_eq, ← List.append_assoc, List.length_append, Nat.add_sub_cancel]
  rw [kept, passes.runes_eq, ← List.append_assoc, List.drop_left] at decided
  have taken := (certain.laid.backup matched.length).take_decided decided
  apply acceptLiteral_of_take
  rw [List.length_map]
  exact taken

/-! ### What a search finds -/

structure Finds (literal : List Char) (reader : Reader) (skipped matched : List Rune) : Prop where
  later : Later reader (reader.seekPast literal).2
  past_passes : Passes reader (skipped ++ matched) (reader.seekPast literal).2
  to_passes : Passes reader skipped (reader.seekTo literal).2
  past_count : (reader.seekPast literal).1.count = (skipped ++ matched).length
  to_eq : (reader.seekTo literal).1 = ⟨skipped.length, (reader.seekPast literal).1.found⟩
  matched_eq : matched.map Rune.char = if (reader.seekPast literal).1.found then literal else []
  stops : if (reader.seekPast literal).1.found then
      FirstAt literal ((runes reader.coming).map Rune.char) skipped.length
    else
      ¬ literal <:+: (runes reader.coming).map Rune.char ∧
        skipped.length = (runes reader.coming).length

theorem Sound.finds {reader : Reader} (sound : reader.Sound) {literal : List Char}
    (ready : (reader.seekPast literal).2.intake.source.stalls = reader.intake.source.stalls) :
    ∃ skipped matched, Finds literal reader skipped matched := by
  obtain ⟨later, skipped, matched, sought⟩ := sound.seekPast literal
  obtain ⟨answer, front⟩ := sought.seekTo later.sound
  have coming := sought.passes.runes_coming sound later.sound
  have settled : ∀ index < skipped.length,
      ¬ literal <+: ((runes reader.coming).map Rune.char).drop index := by
    intro index within stands
    have member := sought.settled index within stands
    rw [sound.unsettled_ready ready] at member
    cases member
  refine ⟨skipped, matched, later, sought.passes, front, sought.count_eq, answer,
    sought.matched_eq, ?_⟩
  have same := sought.matched_eq
  cases found : (reader.seekPast literal).1.found with
  | true =>
      rw [found, if_pos rfl] at same
      rw [if_pos rfl]
      refine ⟨?_, settled⟩
      rw [← List.map_drop, coming, List.append_assoc, List.drop_left, List.map_append, same]
      exact List.prefix_append _ _
  | false =>
      obtain ⟨nonempty, ends⟩ := sound.seekPast_missed found
      have nothing : matched = [] := by
        rw [found] at same
        exact List.map_eq_nil_iff.mp same
      rw [nothing, ends ready, Utf8.runes_nil, List.append_nil, List.append_nil] at coming
      rw [if_neg Bool.false_ne_true, coming]
      refine ⟨?_, rfl⟩
      rw [infix_iff_drop]
      rintro ⟨index, stands⟩
      rw [coming] at settled
      -- Behind the last rune there is no room for a literal that has one.
      by_cases within : index < skipped.length
      · exact settled index within stands
      · have beyond : (skipped.map Rune.char).drop index = [] := by
          apply List.drop_eq_nil_of_le
          rw [List.length_map]
          exact Nat.le_of_not_lt within
        rw [beyond] at stands
        exact nonempty (List.prefix_nil.mp stands)

end Reader

open Reader (Awaits Consumes MetStall)

structure SeeksFirst (source : Source) (cut : List UInt8) (rest : List Rune)
    (literal : List Char) (reader : Reader) : Prop where
  past_found : ¬ MetStall reader (reader.seekPast literal).2 →
    ∀ index, FirstAt literal (rest.map Rune.char) index →
      (reader.seekPast literal).1 = ⟨index + literal.length, true⟩ ∧
      Consumes source cut rest (index + literal.length) reader (reader.seekPast literal).2
  past_missed : ¬ MetStall reader (reader.seekPast literal).2 →
    ¬ literal <:+: rest.map Rune.char →
      (reader.seekPast literal).1 = ⟨rest.length, false⟩ ∧
      Consumes source cut rest rest.length reader (reader.seekPast literal).2
  to_found : ¬ MetStall reader (reader.seekTo literal).2 →
    ∀ index, FirstAt literal (rest.map Rune.char) index →
      (reader.seekTo literal).1 = ⟨index, true⟩ ∧
      Consumes source cut rest index reader (reader.seekTo literal).2 ∧
      ((reader.seekTo literal).2.acceptLiteral literal).1 = true
  to_missed : ¬ MetStall reader (reader.seekTo literal).2 →
    ¬ literal <:+: rest.map Rune.char →
      (reader.seekTo literal).1 = ⟨rest.length, false⟩ ∧
      Consumes source cut rest rest.length reader (reader.seekTo literal).2
  occurs : literal <:+: rest.map Rune.char → ∃ index, FirstAt literal (rest.map Rune.char) index

namespace Reader

variable {source : Source} {sizing : Sizing} {texts : List (List UInt8)} {reader : Reader}
  {literal : List Char} {skipped matched : List Rune}

theorem seekTo_stalls (literal : List Char) (reader : Reader) :
    (reader.seekTo literal).2.intake.source.stalls =
      (reader.seekPast literal).2.intake.source.stalls := by
  unfold seekTo
  simp only
  split
  · rw [backup_source]
  · rfl

theorem Finds.found (finds : Finds literal reader skipped matched) {index : Nat}
    (one : FirstAt literal ((runes reader.coming).map Rune.char) index) :
    (reader.seekPast literal).1.found = true ∧ skipped.length = index ∧
      matched.map Rune.char = literal := by
  have stops := finds.stops
  have same := finds.matched_eq
  cases found : (reader.seekPast literal).1.found with
  | true =>
      rw [found, if_pos rfl] at stops same
      exact ⟨rfl, stops.unique one, same⟩
  | false =>
      rw [found, if_neg Bool.false_ne_true] at stops
      exact absurd one.is_infix stops.1

theorem Finds.length_found (finds : Finds literal reader skipped matched) {index : Nat}
    (one : FirstAt literal ((runes reader.coming).map Rune.char) index) :
    (skipped ++ matched).length = index + literal.length := by
  obtain ⟨_, length, literal_eq⟩ := finds.found one
  rw [List.length_append, length, ← literal_eq, List.length_map]

theorem Finds.missed (finds : Finds literal reader skipped matched)
    (absent : ¬ literal <:+: (runes reader.coming).map Rune.char) :
    (reader.seekPast literal).1.found = false ∧
      skipped.length = (runes reader.coming).length ∧ matched = [] := by
  have stops := finds.stops
  have same := finds.matched_eq
  cases found : (reader.seekPast literal).1.found with
  | true =>
      rw [found, if_pos rfl] at stops
      exact absurd stops.is_infix absent
  | false =>
      rw [found, if_neg Bool.false_ne_true] at stops same
      exact ⟨rfl, stops.2, List.map_eq_nil_iff.mp same⟩

theorem Finds.past_eq (finds : Finds literal reader skipped matched) {found : Bool}
    (same : (reader.seekPast literal).1.found = found) :
    (reader.seekPast literal).1 = ⟨(skipped ++ matched).length, found⟩ := by
  rw [← finds.past_count, ← same]

theorem Finds.to_sound (finds : Finds literal reader skipped matched) :
    (reader.seekTo literal).2.Sound := by
  unfold seekTo
  simp only
  split
  · exact (finds.later.sound.backup _).1.sound
  · exact finds.later.sound

theorem Reaches.seeksFirst (reaches : Reaches (start source sizing) texts reader)
    (honest : source.Honest) (literal : List Char) :
    SeeksFirst source texts.flatten (runes reader.coming) literal reader := by
  have certain := reaches.certain (certain_start honest sizing)
  have past := (seekPast_leads literal reader).reaches
  have front := (seekTo_leads literal reader).reaches
  have finds (ready : ¬ MetStall reader (reader.seekPast literal).2) :
      ∃ skipped matched, Finds literal reader skipped matched := by
    rw [past.metStall_iff certain.laid] at ready
    have fewer := (past.later certain.sound).stalls_le
    exact certain.sound.finds (by omega)
  have same : MetStall reader (reader.seekTo literal).2 ↔
      MetStall reader (reader.seekPast literal).2 := by
    rw [front.metStall_iff certain.laid, past.metStall_iff certain.laid, seekTo_stalls]
  constructor
  · intro ready index one
    obtain ⟨skipped, matched, finds⟩ := finds ready
    have consumes := reaches.consumes honest finds.past_passes finds.later.sound
    rw [finds.past_eq (finds.found one).1, finds.length_found one]
    rw [finds.length_found one] at consumes
    exact ⟨rfl, consumes⟩
  · intro ready absent
    obtain ⟨skipped, matched, finds⟩ := finds ready
    obtain ⟨missed, length, nothing⟩ := finds.missed absent
    have total : (skipped ++ matched).length = (runes reader.coming).length := by
      rw [nothing, List.append_nil, length]
    have consumes := reaches.consumes honest finds.past_passes finds.later.sound
    rw [finds.past_eq missed, total]
    rw [total] at consumes
    exact ⟨rfl, consumes⟩
  · intro ready index one
    rw [same] at ready
    obtain ⟨skipped, matched, finds⟩ := finds ready
    obtain ⟨found, length, literal_eq⟩ := finds.found one
    have consumes := reaches.consumes honest finds.to_passes finds.to_sound
    have again := (past.certain certain).acceptLiteral_backup finds.past_passes
    have stopped : (reader.seekTo literal).2 =
        (reader.seekPast literal).2.backup matched.length := by
      unfold seekTo
      simp only
      rw [found, if_pos rfl, ← literal_eq, List.length_map]
    rw [literal_eq, ← stopped] at again
    rw [length] at consumes
    rw [finds.to_eq, length, found]
    exact ⟨rfl, consumes, again⟩
  · intro ready absent
    rw [same] at ready
    obtain ⟨skipped, matched, finds⟩ := finds ready
    obtain ⟨missed, length, _⟩ := finds.missed absent
    have consumes := reaches.consumes honest finds.to_passes finds.to_sound
    rw [length] at consumes
    rw [finds.to_eq, length, missed]
    exact ⟨rfl, consumes⟩
  · exact exists_firstAt

end Reader

/-- In every state that commands lead to, a search that meets no stall stops at the first occurrence
of the literal, or at the end of the stream if there is none. -/
theorem seek_finds_first {source : Source} (honest : source.Honest) (sizing : Sizing)
    (commands : List Command) (literal : List Char) :
    let fresh := Reader.start source sizing
    let cut := (fresh.cutByAll commands).flatten
    let reader := (fresh.performAll commands).2
    ∃ rest, Awaits source cut reader rest ∧ SeeksFirst source cut rest literal reader := by
  intro fresh cut reader
  have reaches : Reader.Reaches fresh (fresh.cutByAll commands) reader :=
    Reader.performAll_reaches fresh commands
  exact ⟨_, reaches.awaits honest, reaches.seeksFirst honest literal⟩

/-- The literal overlaps itself and holds the replacement rune, which malformed bytes decode to as
well. The first attempt fails at the last rune of it, and the window grows and slides meanwhile. -/
theorem seek_finds_first_overlapping :
    let source := Source.ofEvents [.failure ⟨.interrupted, none⟩, .data [0x21, 0x61, 0xFF, 0x61],
      .data [0xFF, 0x61, 0xEF, 0xBF, 0xBD], .data [0x62, 0x21]]
    let fresh := Reader.start source ⟨4, 4⟩
    let cut := (fresh.cutByAll [.next, .next, .emit]).flatten
    let reader := (fresh.performAll [.next, .next, .emit]).2
    let literal := ['a', Utf8.replacement, 'a', Utf8.replacement, 'b']
    source.Honest ∧ MetStall fresh reader ∧ ¬ MetStall reader (reader.seekPast literal).2 ∧
      (reader.seekPast literal).1 = ⟨7, true⟩ ∧ (reader.seekTo literal).1 = ⟨2, true⟩ ∧
      ((reader.seekTo literal).2.acceptLiteral literal).1 = true ∧
      ∃ rest, Awaits source cut reader rest ∧ SeeksFirst source cut rest literal reader := by
  intro source fresh cut reader literal
  have honest : source.Honest := by decide
  have earlier : MetStall fresh reader := by decide +kernel
  have ready : ¬ MetStall reader (reader.seekPast literal).2 := by decide +kernel
  have past : (reader.seekPast literal).1 = ⟨7, true⟩ := by decide +kernel
  have front : (reader.seekTo literal).1 = ⟨2, true⟩ := by decide +kernel
  have again : ((reader.seekTo literal).2.acceptLiteral literal).1 = true := by decide +kernel
  exact ⟨honest, earlier, ready, past, front, again,
    seek_finds_first honest ⟨4, 4⟩ [.next, .next, .emit] literal⟩

end RuneScan
