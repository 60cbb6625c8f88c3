import RuneScan.Proofs.Intake.Filling

/-!
What a round does to the window, whatever the source does. It finds room in one of three ways, each
with its mark on the number of cells, the start of the token and the journal. What every round keeps
where it is due, a fill keeps; and since a round that another follows brings a byte, the bound on the
rounds of a fill is never what stops them.
-/

namespace RuneScan

structure Slide where
  shift : Nat
  retained : Nat
deriving DecidableEq, Repr

def TraceEvent.slide? : TraceEvent → Option Slide
  | .sliding shift retained => some ⟨shift, retained⟩
  | _ => none

namespace Window

/-- The cells grow only where the bytes in use leave no room for a chunk. -/
theorem retained_of_grow {window : Window} {chunk : Nat}
    (grows : window.adjustment chunk = .grow) : window.cells.size - chunk < window.retained := by
  unfold adjustment at grows
  split at grows
  · split at grows
    · assumption
    · cases grows
  · cases grows

end Window

namespace Intake

def slides (intake : Intake) : List Slide :=
  intake.journal.filterMap TraceEvent.slide?

/-- The number of cells that a round starts with: those there are, or those it allocates. -/
def cellCount (intake : Intake) : Nat :=
  (intake.window.allocate intake.sizing.capacity).cells.size

theorem cellCount_of_empty {intake : Intake} (empty : intake.window.cells.size = 0) :
    intake.cellCount = intake.sizing.capacity := by
  rw [cellCount, Window.allocate, if_pos (Array.isEmpty_iff_size_eq_zero.mpr empty),
    Array.size_replicate]

theorem cellCount_of_pos {intake : Intake} (cells : 0 < intake.window.cells.size) :
    intake.cellCount = intake.window.cells.size := by
  rw [cellCount, Window.allocate, if_neg]
  rw [Array.isEmpty_iff_size_eq_zero]
  exact Nat.ne_of_gt cells

theorem round_sizing (intake : Intake) : intake.round.2.sizing = intake.sizing :=
  (Intake.entered _ _).same.1

/-! ### Room -/

inductive Room (before after : Intake) : Prop where
  | inPlace : after.window.cells.size = before.cellCount →
      after.window.start = before.window.start → after.slides = before.slides → Room before after
  | grown : before.cellCount < before.window.retained + before.sizing.chunk →
      after.window.cells.size = before.cellCount * 2 →
      after.window.start = before.window.start → after.slides = before.slides → Room before after
  | slid : 0 < before.window.start → after.window.cells.size = before.cellCount →
      after.window.start = 0 →
      after.slides = ⟨before.window.start, before.window.retained⟩ :: before.slides →
      Room before after

theorem Laid.makeRoom_room {intake : Intake} (laid : intake.Laid) :
    Room intake intake.makeRoom := by
  obtain ⟨start, _, head⟩ := intake.window.allocate_marks intake.sizing.capacity
  have same : (intake.window.allocate intake.sizing.capacity).retained =
      intake.window.retained := by
    rw [Window.retained, start, head]
    rfl
  have tight (grows :
      (intake.window.allocate intake.sizing.capacity).adjustment intake.sizing.chunk = .grow) :
      intake.cellCount < intake.window.retained + intake.sizing.chunk := by
    have long := Window.retained_of_grow grows
    rw [same] at long
    change intake.cellCount - intake.sizing.chunk < _ at long
    omega
  cases found :
      (intake.window.allocate intake.sizing.capacity).adjustment intake.sizing.chunk with
  | inPlace =>
      refine .inPlace ?_ ?_ ?_
      all_goals simp only [Intake.makeRoom, found, Window.adjust, slides, List.nil_append]
      · rfl
      · exact start
  | grow =>
      refine .grown (tight found) ?_ ?_ ?_
      all_goals simp only [Intake.makeRoom, found, Window.adjust, Window.grow, slides,
        List.singleton_append, List.filterMap_cons, TraceEvent.slide?]
      · rw [Array.size_append, Array.size_replicate, Nat.mul_two]
        rfl
      · exact start
  | slide =>
      refine .slid ?_ ?_ ?_ ?_
      · rw [← start]
        exact Window.start_pos_of_slide laid.allocate_roomy found
      all_goals simp only [Intake.makeRoom, found, Window.adjust, Window.slide, slides,
        List.singleton_append, List.filterMap_cons, TraceEvent.slide?]
      · rw [size_overwrite]
        rfl
      · rw [start, same]

/-- What came changes neither the number of cells nor the start of the token, and is no slide. -/
theorem Entered.room {intake after : Intake} {outcome : Outcome}
    (entered : Entered intake outcome after) :
    after.window.cells.size = intake.window.cells.size ∧
      after.window.start = intake.window.start ∧ after.slides = intake.slides := by
  cases entered with
  | finished => exact ⟨rfl, rfl, rfl⟩
  | stored _ _ _ => exact ⟨size_overwrite .., rfl, rfl⟩
  | notReady _ _ => exact ⟨rfl, rfl, rfl⟩
  | broken _ _ => exact ⟨rfl, rfl, rfl⟩
  | violated _ _ => exact ⟨rfl, rfl, rfl⟩

theorem Room.enter {before after : Intake} (room : Room before after) (source : Source)
    (outcome : Outcome) : Room before (Intake.enter { after with source := source } outcome) := by
  obtain ⟨size, start, moved⟩ := (Intake.entered { after with source := source } outcome).room
  cases room with
  | inPlace cells mark journal =>
      exact .inPlace (size.trans cells) (start.trans mark) (moved.trans journal)
  | grown tight cells mark journal =>
      exact .grown tight (size.trans cells) (start.trans mark) (moved.trans journal)
  | slid shift cells mark journal =>
      exact .slid shift (size.trans cells) (start.trans mark) (moved.trans journal)

theorem Laid.round_room {intake : Intake} (laid : intake.Laid) : Room intake intake.round.2 :=
  laid.makeRoom_room.enter _ _

/-! ### A claim that is too great -/

theorem round_breaks_iff (intake : Intake) (live : intake.condition.isLive = true) :
    intake.round.2.condition.violation?.isSome = true ↔
      intake.sizing.chunk < (intake.source.read intake.sizing.chunk).1.claimed
        intake.sizing.chunk := by
  have sound : ¬intake.condition.violation?.isSome = true := by
    rw [violation?_of_live live]
    exact Bool.false_ne_true
  have entered := Intake.entered { intake.makeRoom with
    source := (intake.source.read intake.sizing.chunk).2 }
      (intake.source.read intake.sizing.chunk).1
  change Entered _ _ intake.round.2 at entered
  generalize (intake.source.read intake.sizing.chunk).1 = outcome at entered ⊢
  generalize intake.round.2 = after at entered ⊢
  cases entered with
  | finished => exact iff_of_false Bool.false_ne_true (Nat.not_lt_zero _)
  | stored byte bytes fits => exact iff_of_false sound (Nat.not_lt_of_le fits)
  | notReady fault _ => exact iff_of_false sound (Nat.not_lt_zero _)
  | broken fault _ => exact iff_of_false Bool.false_ne_true (Nat.not_lt_zero _)
  | violated _ beyond => exact iff_of_true rfl beyond

/-! ### What a fill keeps -/

theorem wants_iff {intake : Intake} : intake.wants = true ↔
    intake.condition.isLive = true ∧ intake.window.unread < Utf8.maxWidth := by
  rw [wants, Bool.and_eq_true, decide_eq_true_eq]

/-- What every round that is due keeps, a fill keeps. -/
theorem fill_keeps {motive : Intake → Prop} {intake : Intake} (start : motive intake)
    (round : ∀ intake, intake.wants = true → motive intake → motive intake.round.2) :
    motive intake.fill := by
  obtain ⟨count, _, same, due⟩ := fillWithin_due (Utf8.maxWidth - intake.window.unread) intake
  have kept (made : Nat) (within : made ≤ count) : motive (intake.rounds made) := by
    induction made with
    | zero => exact start
    | succ made ih =>
        rw [rounds_succ]
        exact round _ (due.wants made within) (ih (Nat.le_of_succ_le within))
  rw [fill, same]
  exact kept count (Nat.le_refl _)

/-! ### The bound on the rounds -/

theorem fillWithin_of_content {intake : Intake} (content : intake.wants = false) (bound : Nat) :
    intake.fillWithin bound = intake := by
  cases bound with
  | zero => rfl
  | succ bound =>
      rw [fillWithin, content]
      exact if_neg Bool.false_ne_true

theorem fill_of_content {intake : Intake} (content : intake.wants = false) :
    intake.fill = intake :=
  fillWithin_of_content content _

theorem wants_of_ended {intake : Intake} (ended : intake.hasEnded = true) :
    intake.wants = false := by
  rw [wants, not_live_of_ended ended, Bool.false_and]

theorem Laid.round_unread {intake : Intake} (laid : intake.Laid) :
    intake.round.2.window.unread = intake.window.unread + intake.round.1 := by
  have ahead := congrArg List.length laid.round.ahead_eq
  have came : (intake.source.handedOver intake.sizing.chunk 1).length = intake.round.1 := by
    rw [Source.handedOver, Source.handedOver, List.append_nil, ← Outcome.size_eq]
    rfl
  rw [laid.round.laid.ordered.length_ahead, List.length_append, laid.ordered.length_ahead,
    came] at ahead
  exact ahead

/-- Each round that another follows brings a byte, so any bound is enough that the missing bytes do
not exceed. -/
theorem Laid.fillWithin_eq {intake : Intake} (laid : intake.Laid) {bound other : Nat}
    (enough : Utf8.maxWidth ≤ bound + intake.window.unread)
    (also : Utf8.maxWidth ≤ other + intake.window.unread) :
    intake.fillWithin bound = intake.fillWithin other := by
  induction bound generalizing intake other with
  | zero =>
      have content : intake.wants = false := by
        rw [← Bool.not_eq_true, wants_iff]
        omega
      rw [fillWithin_of_content content, fillWithin_of_content content]
  | succ bound ih =>
      cases wants : intake.wants with
      | false => rw [fillWithin_of_content wants, fillWithin_of_content wants]
      | true =>
          have few := (wants_iff.mp wants).2
          obtain ⟨left, rfl⟩ := Nat.exists_eq_succ_of_ne_zero (n := other) (by omega)
          simp only [fillWithin, wants, if_true]
          split
          · rename_i goes
            simp only [ne_eq, Bool.and_eq_true, decide_eq_true_eq] at goes
            have unread := laid.round_unread
            exact ih laid.round.laid (by omega) (by omega)
          · rfl

theorem Laid.fill_eq_fillWithin {intake : Intake} (laid : intake.Laid) {bound : Nat}
    (enough : Utf8.maxWidth ≤ bound + intake.window.unread) :
    intake.fillWithin bound = intake.fill :=
  laid.fillWithin_eq enough (by omega)

end Intake
end RuneScan
