import Mathlib.Algebra.BigOperators.Group.List.Basic
import Mathlib.Algebra.GroupWithZero.Nat
import RuneScan.Proofs.Reader.Layout
import RuneScan.Proofs.Reader.Operations

/-!
What the slides of a run cost. A slide moves the pending token and at most three unread bytes to the
front. It needs free cells before the token, so a cut comes before it, and another one before the next
slide. The pending bytes that it moves have been consumed since then, and are charged to those calls
of `next`; the cells it frees are charged to the texts cut off.
-/

namespace RuneScan

namespace Window

/-- The pending bytes that a slide would move and that it has not been charged for yet. As long as no
cell before them is free there can be no slide. -/
def uncharged (window : Window) : Nat :=
  if 0 < window.start then window.offset else 0

theorem uncharged_of_pos {window : Window} (free : 0 < window.start) :
    window.uncharged = window.offset :=
  if_pos free

theorem uncharged_of_zero {window : Window} (full : window.start = 0) : window.uncharged = 0 := by
  rw [uncharged, full]
  exact if_neg (Nat.lt_irrefl 0)

theorem Ordered.offset_consume {window : Window} (ordered : window.Ordered) (width : Nat) :
    (window.consume width).offset = window.offset + width := by
  have start_le := ordered.start_le
  simp only [Window.offset, Window.consume]
  omega

theorem Ordered.uncharged_consume_le {window : Window} (ordered : window.Ordered) (width : Nat) :
    (window.consume width).uncharged ≤ window.uncharged + width := by
  by_cases free : 0 < window.start
  · have same : (window.consume width).uncharged = window.uncharged + width := by
      rw [uncharged_of_pos (by exact free), uncharged_of_pos free, ordered.offset_consume]
    exact Nat.le_of_eq same
  · rw [uncharged_of_zero (by exact Nat.eq_zero_of_not_pos free)]
    exact Nat.zero_le _

theorem uncharged_rewind_le {window : Window} {offset : Nat} (within : offset ≤ window.offset) :
    (window.rewind offset).uncharged ≤ window.uncharged := by
  by_cases free : 0 < window.start
  · have back : (window.rewind offset).offset = offset := Nat.add_sub_cancel_left _ _
    rw [uncharged_of_pos (by exact free), uncharged_of_pos free, back]
    exact within
  · rw [uncharged_of_zero (by exact Nat.eq_zero_of_not_pos free)]
    exact Nat.zero_le _

theorem uncharged_markStart (window : Window) : window.markStart.uncharged = 0 := by
  simp only [uncharged, offset, markStart, Nat.sub_self, ite_self]

end Window

namespace Intake

structure Charged (consumed cut : Nat) (intake : Intake) : Prop where
  retained_le : (intake.slides.map Slide.retained).sum + intake.window.uncharged ≤
    consumed + 3 * intake.slides.length
  shift_eq : (intake.slides.map Slide.shift).sum + intake.window.start = cut
  shift_pos : ∀ slide ∈ intake.slides, 1 ≤ slide.shift

theorem charged_start (source : Source) (sizing : Sizing) : Charged 0 0 (start source sizing) :=
  ⟨Nat.le_refl _, rfl, fun _ member => by cases member⟩

variable {intake : Intake} {consumed cut : Nat}

theorem Charged.slid (charged : Charged consumed cut intake) (laid : intake.Laid)
    (wants : intake.wants = true) {after : Intake} (free : 0 < intake.window.start)
    (mark : after.window.start = 0)
    (journal : after.slides =
      ⟨intake.window.start, intake.window.retained⟩ :: intake.slides) :
    Charged consumed cut after := by
  have owing := charged.retained_le
  have unread := (wants_iff.mp wants).2
  have retained := laid.ordered.retained_eq
  simp only [Utf8.maxWidth] at unread
  rw [Window.uncharged_of_pos free] at owing
  constructor
  · rw [Window.uncharged_of_zero mark]
    simp only [journal, List.map_cons, List.sum_cons, List.length_cons]
    omega
  · have shifted := charged.shift_eq
    simp only [journal, mark, List.map_cons, List.sum_cons]
    omega
  · intro slide member
    rw [journal] at member
    rcases List.mem_cons.mp member with rfl | earlier
    · exact free
    · exact charged.shift_pos slide earlier

theorem Charged.round (charged : Charged consumed cut intake) (laid : intake.Laid)
    (wants : intake.wants = true) : Charged consumed cut intake.round.2 := by
  have still (mark : intake.round.2.window.start = intake.window.start)
      (journal : intake.round.2.slides = intake.slides) :
      Charged consumed cut intake.round.2 := by
    have offset := laid.round.offset_eq laid
    have same : intake.round.2.window.uncharged = intake.window.uncharged := by
      rw [Window.uncharged, mark, offset]
      rfl
    constructor
    · rw [journal, same]
      exact charged.retained_le
    · rw [journal, mark]
      exact charged.shift_eq
    · rw [journal]
      exact charged.shift_pos
  cases laid.round_room with
  | inPlace _ mark journal => exact still mark journal
  | grown _ _ mark journal => exact still mark journal
  | slid free _ mark journal => exact charged.slid laid wants free mark journal

theorem Charged.fill (charged : Charged consumed cut intake) (laid : intake.Laid) :
    Charged consumed cut intake.fill := by
  have kept : intake.fill.Laid ∧ Charged consumed cut intake.fill := by
    apply fill_keeps (motive := fun intake => intake.Laid ∧ Charged consumed cut intake)
    · exact ⟨laid, charged⟩
    · intro intake wants ⟨laid, charged⟩
      exact ⟨laid.round.laid, charged.round laid wants⟩
  exact kept.2

theorem Charged.consume (charged : Charged consumed cut intake)
    (ordered : intake.window.Ordered) (width : Nat) : Charged (consumed + width) cut
      { intake with window := intake.window.consume width } := by
  have owing := charged.retained_le
  have more := ordered.uncharged_consume_le width
  constructor
  · change (intake.slides.map Slide.retained).sum + _ ≤ _ + 3 * intake.slides.length
    simp only
    omega
  · exact charged.shift_eq
  · exact charged.shift_pos

theorem Charged.rewind (charged : Charged consumed cut intake) {offset : Nat}
    (within : offset ≤ intake.window.offset) : Charged consumed cut
      { intake with window := intake.window.rewind offset } := by
  have less := Window.uncharged_rewind_le within
  constructor
  · exact Nat.le_trans (Nat.add_le_add_left less _) charged.retained_le
  · exact charged.shift_eq
  · exact charged.shift_pos

/-- A cut lets go of the pending bytes, and frees their cells for a slide to come. -/
theorem Charged.markStart (charged : Charged consumed cut intake)
    (ordered : intake.window.Ordered) : Charged consumed (cut + intake.window.pending.length)
      { intake with window := intake.window.markStart } := by
  have nothing := intake.window.uncharged_markStart
  have start_le := ordered.start_le
  constructor
  · change (intake.slides.map Slide.retained).sum + intake.window.markStart.uncharged ≤ _
    rw [nothing]
    exact Nat.le_trans (Nat.add_le_add_left (Nat.zero_le _) _) charged.retained_le
  · rw [← charged.shift_eq, ordered.length_pending]
    change (intake.slides.map Slide.shift).sum + intake.window.current = _
    simp only [Window.offset]
    omega
  · exact charged.shift_pos

end Intake

namespace Reader

variable {reader : Reader} {spent cut : Nat}

def consumedBy (reader : Reader) : Move → Nat
  | .next =>
      match reader.next with
      | (some _, after) => after.pending.length - reader.pending.length
      | (none, _) => 0
  | .backup _ => 0
  | .cut => 0

/-- The bytes that the moves consume; those that are consumed again are counted again. -/
def consumed (reader : Reader) : List Move → Nat
  | [] => 0
  | move :: others => reader.consumedBy move + (reader.move move).consumed others

theorem Laid.offset_consume_filled (laid : reader.Laid) (width : Nat) :
    (reader.intake.fill.window.consume width).offset = reader.pending.length + width := by
  obtain ⟨count, fed⟩ := laid.intake.fill
  rw [fed.laid.ordered.offset_consume, fed.offset_eq laid.intake,
    ← laid.intake.ordered.length_pending]
  rfl

/-- To the intake a call of `next` is a fill, after which the cursor moves over the bytes consumed. -/
theorem Laid.next_consume (laid : reader.Laid) : reader.next.2.intake = { reader.intake.fill with
    window := reader.intake.fill.window.consume (reader.consumedBy .next) } := by
  rcases next_cases reader with same | ⟨rune, _, _, same⟩
  · have none : reader.consumedBy .next = 0 := by
      simp only [consumedBy, same]
    rw [none, same]
    rfl
  · have width : reader.consumedBy .next = rune.width := by
      have longer := laid.next.intake.ordered.length_pending
      rw [same] at longer
      simp only [consumedBy, same]
      exact Nat.sub_eq_of_eq_add' (longer.trans (laid.offset_consume_filled rune.width))
    rw [width, same]
    rfl

theorem Laid.length_pending_next (laid : reader.Laid) :
    reader.next.2.pending.length = reader.pending.length + reader.consumedBy .next := by
  have after : reader.next.2.pending.length = reader.next.2.intake.window.offset :=
    laid.next.intake.ordered.length_pending
  rw [after, laid.next_consume]
  exact laid.offset_consume_filled _

theorem Laid.charged_move (laid : reader.Laid) (charged : reader.intake.Charged spent cut)
    (move : Move) : (reader.move move).intake.Charged (spent + reader.consumedBy move)
      (cut + (reader.cut? move).toList.flatten.length) := by
  cases move with
  | next =>
      change reader.next.2.intake.Charged _ _
      rw [laid.next_consume]
      exact (charged.fill laid.intake).consume laid.fill.intake.ordered _
  | backup count =>
      change (reader.backup count).intake.Charged _ _
      unfold Reader.backup
      split
      · exact charged
      · rename_i snapshot earlier found
        exact charged.rewind (laid.rewind_le found)
  | cut =>
      have whole : [reader.pending].flatten = reader.pending := List.flatten_singleton
      change reader.ignore.intake.Charged _ (cut + [reader.pending].flatten.length)
      rw [whole]
      exact charged.markStart laid.intake.ordered

theorem Laid.charged_moveAll (laid : reader.Laid) (charged : reader.intake.Charged spent cut)
    (moves : List Move) : (reader.moveAll moves).intake.Charged (spent + reader.consumed moves)
      (cut + (reader.cutTexts moves).flatten.length) := by
  induction moves generalizing reader spent cut with
  | nil => exact charged
  | cons move others ih =>
      have later := ih (laid.move move) (laid.charged_move charged move)
      rw [Nat.add_assoc, Nat.add_assoc, ← List.length_append, ← List.flatten_append] at later
      exact later

/-- Where no rune is given back, no byte is consumed twice. -/
theorem Laid.consumed_forward (laid : reader.Laid) {moves : List Move}
    (forward : ∀ count, 0 < count → .backup count ∉ moves) :
    (reader.cutTexts moves).flatten.length + (reader.moveAll moves).pending.length =
      reader.pending.length + reader.consumed moves := by
  induction moves generalizing reader with
  | nil => exact Nat.zero_add _
  | cons move others ih =>
      have rest := ih (laid.move move)
        (fun count positive member => forward count positive (List.mem_cons_of_mem _ member))
      change ((reader.cut? move).toList ++ (reader.move move).cutTexts others).flatten.length +
        ((reader.move move).moveAll others).pending.length =
          reader.pending.length + (reader.consumedBy move + (reader.move move).consumed others)
      rw [List.flatten_append, List.length_append, Nat.add_assoc, rest]
      cases move with
      | next =>
          have longer := laid.length_pending_next
          change 0 + (reader.next.2.pending.length + _) = _
          omega
      | backup count =>
          cases count with
          | zero =>
              change 0 + (reader.pending.length + _) = _ + (0 + _)
              omega
          | succ count => exact absurd List.mem_cons_self (forward _ (Nat.succ_pos count))
      | cut =>
          change [reader.pending].flatten.length + (reader.ignore.pending.length + _) = _ + (0 + _)
          rw [pending_ignore, List.flatten_singleton, List.length_nil, Nat.zero_add]

structure SlidesPaid (fresh : Reader) (moves : List Move) : Prop where
  retained_le : ((fresh.moveAll moves).intake.slides.map Slide.retained).sum ≤
    fresh.consumed moves + 3 * (fresh.moveAll moves).intake.slides.length
  shift_le : ((fresh.moveAll moves).intake.slides.map Slide.shift).sum ≤
    (fresh.cutTexts moves).flatten.length
  shift_pos : ∀ slide ∈ (fresh.moveAll moves).intake.slides, 1 ≤ slide.shift
  /-- If no rune is given back, at most four bytes are moved for each byte read. -/
  forward_le : (∀ count, 0 < count → .backup count ∉ moves) →
    ((fresh.moveAll moves).intake.slides.map Slide.retained).sum ≤
      4 * (fresh.intake.source.handedOver fresh.intake.sizing.chunk
        ((fresh.moveAll moves).intake.source.reads - fresh.intake.source.reads)).length

/-- What has been cut off and is pending has been read. -/
theorem length_cutTexts_le (source : Source) (sizing : Sizing) (moves : List Move) :
    let fresh := start source sizing
    (fresh.cutTexts moves).flatten.length + (fresh.moveAll moves).pending.length ≤
      (source.handedOver sizing.clamp.chunk
        ((fresh.moveAll moves).intake.source.reads - source.reads)).length := by
  intro fresh
  have laid : fresh.Laid := laid_start source sizing
  have reaches := fresh.moveAll_reaches moves
  have ordered := (reaches.laid laid).intake.ordered
  have whole := congrArg List.length (reaches.took laid).2
  change _ = (source.handedOver sizing.clamp.chunk _).length at whole
  rw [List.length_append, ← ordered.pending_append_ahead, List.length_append] at whole
  exact Nat.le_trans (Nat.add_le_add_left (Nat.le_add_right _ _) _) (Nat.le_of_eq whole)

theorem slidesPaid (source : Source) (sizing : Sizing) (moves : List Move) :
    SlidesPaid (start source sizing) moves := by
  have laid := laid_start source sizing
  have charged := laid.charged_moveAll (Intake.charged_start source sizing) moves
  rw [Nat.zero_add, Nat.zero_add] at charged
  have retained := charged.retained_le
  have shifted := charged.shift_eq
  constructor
  · omega
  · omega
  · exact charged.shift_pos
  · intro forward
    have once := laid.consumed_forward forward
    have read := length_cutTexts_le source sizing moves
    have fewer : ((start source sizing).moveAll moves).intake.slides.length ≤
        (((start source sizing).moveAll moves).intake.slides.map Slide.shift).sum := by
      rw [← List.length_map (f := Slide.shift)]
      apply List.length_le_sum_of_one_le
      intro shift member
      obtain ⟨slide, made, rfl⟩ := List.mem_map.mp member
      exact charged.shift_pos slide made
    have nothing : (start source sizing).pending.length = 0 := rfl
    apply Nat.le_trans _ (Nat.mul_le_mul_left 4 read)
    omega

end Reader

/-- After any moves the slides made so far are paid for by the bytes consumed and cut off, and every
run of commands is the run of the moves it makes. -/
theorem slides_are_amortized (source : Source) (sizing : Sizing) :
    let fresh := Reader.start source sizing
    (∀ moves, fresh.SlidesPaid moves) ∧
    ∀ commands, fresh.moveAll (fresh.movesByAll commands) = (fresh.performAll commands).2 := by
  intro fresh
  constructor
  · exact Reader.slidesPaid source sizing
  · intro commands
    exact (Reader.performAll_leads fresh commands).moveAll_eq

/-- The cells are doubled for a long token. After three cuts two bytes of a truncated rune are moved
over the cells let go of since. -/
theorem slides_are_amortized_three_cuts :
    let source := Source.ofEvents [.data (List.replicate 12 0x61), .failure ⟨.wouldBlock, none⟩,
      .data [0xE2], .data [0x82, 0xAC]]
    let fresh := Reader.start source ⟨4, 8⟩
    let moves : List Reader.Move := [.next, .next, .next, .cut, .next, .next, .next, .next, .cut,
      .next, .next, .next, .next, .cut, .next, .next, .cut]
    fresh.movesByAll [.take 3, .emit, .take 4, .emit, .take 4, .ignore, .take 2, .emit] = moves ∧
      (fresh.moveAll moves).intake.slides = [⟨11, 2⟩] ∧ fresh.consumed moves = 15 ∧
      (∀ count, 0 < count → .backup count ∉ moves) ∧ fresh.SlidesPaid moves := by
  intro source fresh moves
  have same : fresh.movesByAll
      [.take 3, .emit, .take 4, .emit, .take 4, .ignore, .take 2, .emit] = moves := by
    decide +kernel
  have slides : (fresh.moveAll moves).intake.slides = [⟨11, 2⟩] := by decide +kernel
  have consumed : fresh.consumed moves = 15 := by decide +kernel
  have forward : ∀ count, 0 < count → .backup count ∉ moves := by
    intro count _ member
    simp [moves] at member
  obtain ⟨paid, _⟩ := slides_are_amortized source ⟨4, 8⟩
  exact ⟨same, slides, consumed, forward, paid moves⟩

end RuneScan
