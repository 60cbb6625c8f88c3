import RuneScan.Proofs.Intake.Layout
import RuneScan.Proofs.Utf8.Seam

/-!
What a fill does for an intake over an honest source. It leaves the pending bytes and the bytes to
come as they are, and stops with the end recorded, with enough bytes to decode, or at a read that
found the source not ready.
-/

namespace RuneScan

namespace Intake

def coming (intake : Intake) : List UInt8 :=
  intake.window.ahead ++ (if intake.condition.isLive then intake.source.stream else [])

structure Sound (intake : Intake) : Prop extends Laid intake where
  honest : intake.source.Honest
  known : intake.condition.isLive = true ∨ intake.hasEnded = true

theorem sound_start {source : Source} (honest : source.Honest) (sizing : Sizing) :
    (start source sizing).Sound :=
  { laid_start source sizing with
    honest := honest
    known := .inl rfl }

theorem not_live_of_ended {intake : Intake} (ended : intake.hasEnded = true) :
    intake.condition.isLive = false := by
  unfold hasEnded at ended
  cases same : intake.condition with
  | live => simp [same, Condition.error?] at ended
  | ended error => rfl
  | violated claimed requested => rfl

theorem error?_of_live {intake : Intake} (live : intake.condition.isLive = true) :
    intake.condition.error? = none := by
  cases same : intake.condition with
  | live => rfl
  | ended error =>
      rw [same] at live
      cases live
  | violated claimed requested => rfl

theorem violation?_of_live {intake : Intake} (live : intake.condition.isLive = true) :
    intake.condition.violation? = none := by
  cases same : intake.condition with
  | live => rfl
  | ended error => rfl
  | violated claimed requested =>
      rw [same] at live
      cases live

theorem coming_of_live {intake : Intake} (live : intake.condition.isLive = true) :
    intake.coming = intake.window.ahead ++ intake.source.stream := by
  rw [coming, if_pos live]

theorem coming_of_ended {intake : Intake} (ended : intake.hasEnded = true) :
    intake.coming = intake.window.ahead := by
  rw [coming, not_live_of_ended ended, if_neg Bool.false_ne_true, List.append_nil]

/-- A rune at the front that no further byte can change is the next one of the bytes to come. -/
theorem Sound.front_coming {intake : Intake} (sound : intake.Sound)
    (nonempty : intake.window.ahead ≠ [])
    (settled : intake.hasEnded = true ∨ Utf8.isTruncated intake.window.ahead = false) :
    Utf8.front intake.coming = Utf8.front intake.window.ahead := by
  rcases sound.known with live | ended
  · rcases settled with ended | settled
    · rw [not_live_of_ended ended] at live
      cases live
    · rw [coming_of_live live, Utf8.front_append nonempty settled]
  · rw [coming_of_ended ended]

structure Follows (before after : Intake) : Prop where
  sound : after.Sound
  fed : ∃ count, Fed before count after
  coming_eq : after.coming = before.coming
  stalls_le : after.source.stalls ≤ before.source.stalls
  journal : ∃ events, after.journal = events ++ before.journal

/-- What is left to show of reads, once the bytes that they handed over are known to be laid out. -/
theorem Fed.follows {before after : Intake} {count : Nat} (fed : Fed before count after)
    (honest : after.source.Honest)
    (known : after.condition.isLive = true ∨ after.hasEnded = true)
    (same : after.coming = before.coming)
    (fewer : after.source.stalls ≤ before.source.stalls) (events : List TraceEvent)
    (journal : after.journal = events ++ before.journal) : Follows before after :=
  { sound := { fed.laid with honest := honest, known := known }
    fed := ⟨count, fed⟩
    coming_eq := same
    stalls_le := fewer
    journal := ⟨events, journal⟩ }

theorem Follows.refl {intake : Intake} (sound : intake.Sound) : Follows intake intake :=
  ⟨sound, ⟨0, .refl sound.toLaid⟩, rfl, Nat.le_refl _, [], rfl⟩

theorem Follows.trans {first second third : Intake} (earlier : Follows first second)
    (later : Follows second third) : Follows first third := by
  rcases earlier.journal with ⟨before, first_eq⟩
  rcases later.journal with ⟨between, second_eq⟩
  rcases earlier.fed with ⟨count, fed⟩
  rcases later.fed with ⟨more, fed'⟩
  refine
    { sound := later.sound
      fed := ⟨count + more, fed.trans fed'⟩
      coming_eq := later.coming_eq.trans earlier.coming_eq
      stalls_le := Nat.le_trans later.stalls_le earlier.stalls_le
      journal := ⟨between ++ before, ?_⟩ }
  rw [second_eq, first_eq, List.append_assoc]

theorem Follows.sizing_eq {before after : Intake} (follows : Follows before after) :
    after.sizing = before.sizing := by
  obtain ⟨count, fed⟩ := follows.fed
  exact fed.sizing_eq

theorem Follows.pending_eq {before after : Intake} (follows : Follows before after) :
    after.window.pending = before.window.pending := by
  obtain ⟨count, fed⟩ := follows.fed
  exact fed.pending_eq

def Stalled (before after : Intake) : Prop :=
  after.source.stalls < before.source.stalls ∧
    ∃ kind events, kind.isTransient = true ∧
      after.journal = .sourceNotReady kind :: (events ++ before.journal)

theorem Stalled.of_follows {first second third : Intake} (earlier : Follows first second)
    (later : Stalled second third) : Stalled first third := by
  rcases later with ⟨fewer, kind, events, transient, last⟩
  rcases earlier.journal with ⟨before, journal⟩
  refine ⟨Nat.lt_of_lt_of_le fewer earlier.stalls_le, kind, events ++ before, transient, ?_⟩
  rw [last, journal, List.append_assoc]

/-! ### One round -/

theorem Sound.follows_makeRoom {intake : Intake} (sound : intake.Sound) :
    Follows intake intake.makeRoom := by
  have made := sound.toLaid.makeRoom
  refine made.follows sound.honest sound.known ?_ (Nat.le_refl _) _ rfl
  rw [coming, coming, made.ahead_eq, Source.handedOver, List.append_nil]
  rfl

inductive RoundEnd (before : Intake) (count : Nat) (after : Intake) : Prop where
  | arrived : 0 < count → after.condition.isLive = true →
      after.window.unread = before.window.unread + count → RoundEnd before count after
  | ended : count = 0 → after.hasEnded = true → RoundEnd before count after
  | stalled : count = 0 → after.condition.isLive = true → Stalled before after →
      RoundEnd before count after

private theorem Sound.enter {ready : Intake} (sound : ready.Sound)
    (live : ready.condition.isLive = true)
    (fits : ready.window.head + ready.sizing.chunk ≤ ready.window.cells.size)
    {outcome : Outcome} {source : Source}
    (read : ready.source.read ready.sizing.chunk = (outcome, source)) :
    Follows ready (Intake.enter { ready with source := source } outcome) ∧
      RoundEnd ready outcome.size (Intake.enter { ready with source := source } outcome) := by
  have fed := sound.toLaid.enter fits read
  have honest := sound.honest.read ready.sizing.chunk
  have fewer := ready.source.read_stalls_le ready.sizing.chunk
  have progress := Source.read_progress sound.honest sound.chunk_pos
  have came : ready.source.handedOver ready.sizing.chunk 1 = outcome.bytes := by
    rw [Source.handedOver, read, Source.handedOver, List.append_nil]
  rw [read] at honest fewer progress
  simp only at honest fewer progress
  have ahead := fed.ahead_eq
  rw [came] at ahead
  cases progress with
  | finished nothing =>
      refine ⟨fed.follows honest (.inr rfl) ?_ fewer [_, _] rfl, .ended rfl rfl⟩
      rw [coming_of_live live, nothing, List.append_nil]
      exact coming_of_ended rfl
  | arrived byte bytes taken =>
      have size := ready.source.read_size_le ready.sizing.chunk
      rw [read] at size
      have stored : Intake.enter { ready with source := source } (.delivered (byte :: bytes)) =
          { ready with
            source := source
            window := ready.window.store (byte :: bytes)
            journal := .chunkRead ready.sizing.chunk (byte :: bytes).length :: ready.journal } :=
        if_pos size
      rw [stored] at fed ahead ⊢
      refine ⟨fed.follows honest (.inl live) ?_ fewer [_] rfl, .arrived (Nat.succ_pos _) live ?_⟩
      · rw [coming_of_live live, taken, coming_of_live (by exact live), ahead, List.append_assoc]
        rfl
      · have longer := congrArg List.length ahead
        rw [fed.laid.ordered.length_ahead, List.length_append,
          sound.ordered.length_ahead] at longer
        exact longer
  | stalled fault transient same once =>
      simp only [Intake.enter, transient, if_true] at fed ⊢
      refine ⟨fed.follows honest (.inl live) ?_ fewer [_] rfl,
        .stalled rfl live ⟨?_, fault.kind, [], transient, rfl⟩⟩
      · rw [coming_of_live live, same]
        exact coming_of_live live
      · simp only
        omega
  | broken fault lasting nothing =>
      simp only [Intake.enter, lasting, Bool.false_eq_true, if_false] at fed ⊢
      refine ⟨fed.follows honest (.inr rfl) ?_ fewer [_] rfl, .ended rfl rfl⟩
      rw [coming_of_live live, nothing, List.append_nil]
      exact coming_of_ended rfl

theorem Sound.round {intake : Intake} (sound : intake.Sound)
    (live : intake.condition.isLive = true) :
    Follows intake intake.round.2 ∧ RoundEnd intake intake.round.1 intake.round.2 := by
  have made := sound.follows_makeRoom
  cases read : intake.makeRoom.source.read intake.makeRoom.sizing.chunk with
  | mk outcome source =>
      have result : intake.round =
          (outcome.size, Intake.enter { intake.makeRoom with source := source } outcome) := by
        simp only [Intake.round, read]
      obtain ⟨follows, finish⟩ := made.sound.enter live sound.toLaid.makeRoom_fits read
      rw [result]
      refine ⟨made.trans follows, ?_⟩
      simp only
      cases finish with
      | arrived positive ready more =>
          refine .arrived positive ready (more.trans ?_)
          rw [← made.sound.ordered.length_ahead, sound.toLaid.makeRoom.ahead_eq,
            Source.handedOver, List.append_nil, sound.ordered.length_ahead]
      | ended nothing finished => exact .ended nothing finished
      | stalled nothing ready stalled => exact .stalled nothing ready (.of_follows made stalled)

/-! ### All rounds -/

inductive FillEnd (before after : Intake) : Prop where
  | ended : after.hasEnded = true → FillEnd before after
  | decodable : after.condition.isLive = true → after.window.ahead ≠ [] →
      Utf8.isTruncated after.window.ahead = false → FillEnd before after
  | stalled : after.condition.isLive = true → Stalled before after → FillEnd before after

theorem isTruncated_lookahead (window : Window) :
    Utf8.isTruncated window.lookahead = Utf8.isTruncated window.ahead := by
  rw [window.lookahead_eq_take, Utf8.isTruncated_take_maxWidth]

private theorem FillEnd.of_enough {before after : Intake} (sound : after.Sound)
    (enough : Utf8.maxWidth ≤ after.window.unread) : FillEnd before after := by
  rcases sound.known with live | ended
  · rw [← sound.ordered.length_ahead] at enough
    apply FillEnd.decodable live
    · intro empty
      rw [empty] at enough
      exact absurd enough (by decide)
    · apply Bool.eq_false_iff.mpr
      intro truncated
      exact Nat.not_lt_of_le enough (Utf8.isTruncated_length_lt truncated)
  · exact .ended ended

private theorem Sound.fillWithin {intake : Intake} (sound : intake.Sound) {rounds : Nat}
    (enough : Utf8.maxWidth ≤ rounds + intake.window.unread) :
    Follows intake (intake.fillWithin rounds) ∧ FillEnd intake (intake.fillWithin rounds) := by
  -- A round that is followed by another has brought a byte, so the rounds left and the unread bytes
  -- together stay enough for a scalar value.
  induction rounds generalizing intake with
  | zero =>
      rw [Nat.zero_add] at enough
      exact ⟨.refl sound, .of_enough sound enough⟩
  | succ rounds ih =>
      simp only [Intake.fillWithin, isTruncated_lookahead]
      by_cases wants : intake.wants = true
      · rw [if_pos wants]
        simp only [Intake.wants, Bool.and_eq_true] at wants
        obtain ⟨follows, finish⟩ := sound.round wants.1
        generalize intake.round = result at follows finish ⊢
        rcases result with ⟨count, after⟩
        simp only at follows finish ⊢
        cases finish with
        | arrived positive live more =>
            cases truncated : Utf8.isTruncated after.window.ahead with
            | true =>
                simp only [ne_eq, Nat.ne_of_gt positive, not_false_eq_true, decide_true,
                  Bool.and_self, if_true]
                obtain ⟨later, finished⟩ := ih follows.sound (by omega)
                refine ⟨follows.trans later, ?_⟩
                cases finished with
                | ended finished => exact .ended finished
                | decodable live some settled => exact .decodable live some settled
                | stalled live stalled => exact .stalled live (.of_follows follows stalled)
            | false =>
                simp only [Bool.and_false, Bool.false_eq_true, if_false]
                refine ⟨follows, .decodable live ?_ truncated⟩
                apply List.ne_nil_of_length_pos
                rw [follows.sound.ordered.length_ahead]
                omega
        | ended nothing finished =>
            subst nothing
            exact ⟨follows, .ended finished⟩
        | stalled nothing live stalled =>
            subst nothing
            exact ⟨follows, .stalled live stalled⟩
      · rw [if_neg wants]
        refine ⟨.refl sound, ?_⟩
        rcases sound.known with live | ended
        · apply FillEnd.of_enough sound
          simp only [Intake.wants, live, Bool.true_and, decide_eq_true_eq] at wants
          omega
        · exact .ended ended

theorem Sound.fill {intake : Intake} (sound : intake.Sound) :
    Follows intake intake.fill ∧ FillEnd intake intake.fill :=
  sound.fillWithin (by omega)

end Intake
end RuneScan
