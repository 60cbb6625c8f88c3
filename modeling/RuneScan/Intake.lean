import RuneScan.Sizing
import RuneScan.Source
import RuneScan.Trace
import RuneScan.Window

/-!
Taking in bytes: a window, the source that feeds it, and the first thing that put an end to
reading.

A round makes room for one chunk and reads once. A fill makes a round whenever fewer bytes are unread
than a scalar value can have, whether or not they hold a whole one, and repeats it only while they
are the beginning of one scalar value.
-/

namespace RuneScan

inductive Condition where
  | live
  | ended (error : ReadError)
  /-- The source claimed more bytes than it was asked for, and is not read again. -/
  | violated (claimed requested : Nat)
deriving DecidableEq, Repr

namespace Condition

def isLive : Condition → Bool
  | .live => true
  | _ => false

def error? : Condition → Option ReadError
  | .ended error => some error
  | _ => none

def violation? : Condition → Option String
  | .violated claimed requested =>
      some ("bogus reader returned " ++ toString claimed ++ " bytes for a " ++
        toString requested ++ "-byte read")
  | _ => none

end Condition

structure Intake where
  /-- The sizes in force, none of them too small. -/
  sizing : Sizing
  source : Source
  window : Window
  condition : Condition
  /-- What has happened, the latest first. -/
  journal : List TraceEvent
deriving DecidableEq, Repr

namespace Intake

def start (source : Source) (sizing : Sizing) : Intake :=
  { sizing := sizing.clamp
    source := source
    window := .empty
    condition := .live
    journal := [] }

def hasEnded (intake : Intake) : Bool :=
  intake.condition.error?.isSome

def makeRoom (intake : Intake) : Intake :=
  let window := intake.window.allocate intake.sizing.capacity
  let adjustment := window.adjustment intake.sizing.chunk
  let events : List TraceEvent :=
    match adjustment with
    | .inPlace => []
    | .grow => [.growing window.cells.size (window.cells.size * 2) window.retained]
    | .slide => [.sliding window.start window.retained]
  { intake with window := window.adjust adjustment, journal := events ++ intake.journal }

/-- Takes in what a read handed over, unless more was claimed than a chunk. -/
def takeIn (intake : Intake) (claimed : Nat) (bytes : List UInt8) : Intake :=
  if claimed ≤ intake.sizing.chunk then
    { intake with
      window := intake.window.store bytes
      journal := .chunkRead intake.sizing.chunk claimed :: intake.journal }
  else
    { intake with condition := .violated claimed intake.sizing.chunk }

/-- Enters what a read came to. Transient faults leave no mark but in the journal. -/
def enter (intake : Intake) (outcome : Outcome) : Intake :=
  match outcome with
  | .delivered [] =>
      { intake with
        condition := .ended .endOfStream
        journal := .errorRecorded .endOfStream :: .sourceExhausted :: intake.journal }
  | .delivered bytes => intake.takeIn bytes.length bytes
  | .failed fault =>
      if fault.kind.isTransient then
        { intake with journal := .sourceNotReady fault.kind :: intake.journal }
      else
        { intake with
          condition := .ended (.source fault)
          journal := .errorRecorded (.source fault) :: intake.journal }
  | .overclaimed excess => intake.takeIn (intake.sizing.chunk + excess.count) []

/-- One round: room for a chunk, then one read. Gives the number of bytes that came. -/
def round (intake : Intake) : Nat × Intake :=
  let ready := intake.makeRoom
  let (outcome, source) := ready.source.read ready.sizing.chunk
  (outcome.size, { ready with source := source }.enter outcome)

/-- Whether a round is due: more may come, and the unread bytes could be too few. -/
def wants (intake : Intake) : Bool :=
  intake.condition.isLive && intake.window.unread < Utf8.maxWidth

def fillWithin : Nat → Intake → Intake
  | 0, intake => intake
  | rounds + 1, intake =>
      if intake.wants then
        let next := intake.round
        if next.1 ≠ 0 && Utf8.isTruncated next.2.window.lookahead then
          fillWithin rounds next.2
        else
          next.2
      else
        intake

/-- Sees to it that a whole scalar value is unread, unless the source cannot supply one now. Each
repeated round brings a byte, so the number of missing bytes bounds the rounds. -/
def fill (intake : Intake) : Intake :=
  intake.fillWithin (Utf8.maxWidth - intake.window.unread)

/-! ### What is left -/

def remaining (intake : Intake) : Nat :=
  intake.window.unread + intake.source.bytesLeft

def span (intake : Intake) : Nat :=
  intake.window.retained + intake.source.bytesLeft

theorem makeRoom_unread_le (intake : Intake) :
    intake.makeRoom.window.unread ≤ intake.window.unread := by
  have marks := intake.window.allocate_marks intake.sizing.capacity
  refine Nat.le_trans (Window.adjust_unread_le _ _) (Nat.le_of_eq ?_)
  simp only [Window.unread, marks.2.1, marks.2.2]

theorem makeRoom_retained (intake : Intake) :
    intake.makeRoom.window.retained = intake.window.retained := by
  have marks := intake.window.allocate_marks intake.sizing.capacity
  apply (Window.adjust_retained _ _).trans
  simp only [Window.retained, marks.1, marks.2.2]

inductive Entered (intake : Intake) : Outcome → Intake → Prop where
  | finished : Entered intake (.delivered []) { intake with
      condition := .ended .endOfStream
      journal := .errorRecorded .endOfStream :: .sourceExhausted :: intake.journal }
  | stored (byte : UInt8) (bytes : List UInt8) : (byte :: bytes).length ≤ intake.sizing.chunk →
      Entered intake (.delivered (byte :: bytes)) { intake with
        window := intake.window.store (byte :: bytes)
        journal := .chunkRead intake.sizing.chunk (byte :: bytes).length :: intake.journal }
  | notReady (fault : Fault) : fault.kind.isTransient = true → Entered intake (.failed fault)
      { intake with journal := .sourceNotReady fault.kind :: intake.journal }
  | broken (fault : Fault) : fault.kind.isTransient = false → Entered intake (.failed fault)
      { intake with
        condition := .ended (.source fault)
        journal := .errorRecorded (.source fault) :: intake.journal }
  | violated (outcome : Outcome) : intake.sizing.chunk < outcome.claimed intake.sizing.chunk →
      Entered intake outcome { intake with
        condition := .violated (outcome.claimed intake.sizing.chunk) intake.sizing.chunk }

theorem entered (intake : Intake) (outcome : Outcome) :
    Entered intake outcome (intake.enter outcome) := by
  cases outcome with
  | delivered bytes =>
      cases bytes with
      | nil => exact .finished
      | cons byte bytes =>
          change Entered intake _ (intake.takeIn (byte :: bytes).length (byte :: bytes))
          unfold takeIn
          split
          · rename_i fits
            exact .stored byte bytes fits
          · rename_i beyond
            exact .violated (.delivered (byte :: bytes)) (Nat.lt_of_not_le beyond)
  | failed fault =>
      simp only [enter]
      split
      · rename_i transient
        exact .notReady fault transient
      · rename_i lasting
        exact .broken fault (Bool.eq_false_iff.mpr lasting)
  | overclaimed excess =>
      have beyond := Nat.lt_add_of_pos_right (n := intake.sizing.chunk) excess.positive
      change Entered intake _ (intake.takeIn (intake.sizing.chunk + excess.count) [])
      rw [takeIn, if_neg (Nat.not_le_of_lt beyond)]
      exact .violated (.overclaimed excess) beyond

theorem Entered.same {intake after : Intake} {outcome : Outcome}
    (entered : Entered intake outcome after) :
    after.sizing = intake.sizing ∧ after.source = intake.source := by
  cases entered with
  | finished => exact ⟨rfl, rfl⟩
  | stored _ _ _ => exact ⟨rfl, rfl⟩
  | notReady _ _ => exact ⟨rfl, rfl⟩
  | broken _ _ => exact ⟨rfl, rfl⟩
  | violated _ _ => exact ⟨rfl, rfl⟩

structure NoMore (before after : Intake) : Prop where
  bytesLeft_le : after.source.bytesLeft ≤ before.source.bytesLeft
  remaining_le : after.remaining ≤ before.remaining
  span_le : after.span ≤ before.span

theorem NoMore.refl (intake : Intake) : NoMore intake intake :=
  ⟨Nat.le_refl _, Nat.le_refl _, Nat.le_refl _⟩

theorem NoMore.trans {first second third : Intake}
    (earlier : NoMore first second) (later : NoMore second third) : NoMore first third :=
  ⟨Nat.le_trans later.bytesLeft_le earlier.bytesLeft_le,
    Nat.le_trans later.remaining_le earlier.remaining_le,
    Nat.le_trans later.span_le earlier.span_le⟩

private theorem enter_noMore (intake : Intake) (source : Source) (outcome : Outcome)
    (split : outcome.size + source.bytesLeft = intake.source.bytesLeft) :
    NoMore intake ({ intake with source := source }.enter outcome) := by
  have entered := entered { intake with source := source } outcome
  generalize Intake.enter { intake with source := source } outcome = after at entered ⊢
  have less : source.bytesLeft ≤ intake.source.bytesLeft := by omega
  have same (condition : Condition) (journal : List TraceEvent) : NoMore intake { intake with
      source := source, condition := condition, journal := journal } :=
    ⟨less, Nat.add_le_add_left less _, Nat.add_le_add_left less _⟩
  cases entered with
  | stored byte bytes _ =>
      have unread := intake.window.store_unread_le (byte :: bytes)
      have retained := intake.window.store_retained_le (byte :: bytes)
      simp only [Outcome.size] at split
      constructor <;> simp only [remaining, span] <;> omega
  | finished => exact same _ _
  | notReady _ _ => exact same _ _
  | broken _ _ => exact same _ _
  | violated _ _ => exact same _ _

theorem makeRoom_noMore (intake : Intake) : NoMore intake intake.makeRoom :=
  ⟨Nat.le_refl _, Nat.add_le_add_right intake.makeRoom_unread_le _,
    Nat.le_of_eq (congrArg (· + intake.source.bytesLeft) intake.makeRoom_retained)⟩

theorem round_noMore (intake : Intake) : NoMore intake intake.round.2 :=
  (makeRoom_noMore intake).trans
    (enter_noMore _ _ _ (intake.makeRoom.source.read_bytesLeft intake.makeRoom.sizing.chunk))

theorem fillWithin_noMore (rounds : Nat) (intake : Intake) :
    NoMore intake (intake.fillWithin rounds) := by
  induction rounds generalizing intake with
  | zero => exact .refl intake
  | succ rounds ih =>
      simp only [fillWithin]
      split
      · split
        · exact (round_noMore intake).trans (ih _)
        · exact round_noMore intake
      · exact .refl intake

theorem fill_noMore (intake : Intake) : NoMore intake intake.fill :=
  fillWithin_noMore _ intake

end Intake
end RuneScan
