import RuneScan.Proofs.Reader.Lexemes
import RuneScan.Proofs.Utf8.Scalar

/-!
The undo stack mirrors the pending token. The runes that `next` has yielded since the last cut and
that have not been undone are written down here from what can be seen of the moves alone. They are
the runes of the pending bytes, decoded with nothing behind them, and the stack holds for each of
them where the cursor stood before it. So the text of every lexeme that is handed out gives back the
runes that were yielded for it, though they were decoded with other bytes behind them.
-/

namespace RuneScan

open Utf8 (runes widths)

structure Delivery where
  char : Char
  before : Snapshot
deriving DecidableEq, Repr

structure CutRecord where
  lexeme : Lexeme
  held : List Delivery
deriving DecidableEq, Repr

def deliveries (offset : Nat) (position : Position) (decoded : List Rune) : List Delivery :=
  List.zipWith (fun rune before => ⟨rune.char, before⟩) decoded (snapshots offset position decoded)

theorem length_deliveries (offset : Nat) (position : Position) (decoded : List Rune) :
    (deliveries offset position decoded).length = decoded.length := by
  rw [deliveries, List.length_zipWith, length_snapshots, Nat.min_self]

theorem deliveries_append (offset : Nat) (position : Position) (first second : List Rune) :
    deliveries offset position (first ++ second) = deliveries offset position first ++
      deliveries (offset + widths first) (position.past first) second := by
  unfold deliveries
  rw [snapshots_append, List.zipWith_append]
  rw [length_snapshots]

theorem take_deliveries (offset : Nat) (position : Position) (decoded : List Rune) (count : Nat) :
    (deliveries offset position decoded).take count =
      deliveries offset position (decoded.take count) := by
  rw [deliveries, List.take_zipWith, take_snapshots]
  rfl

theorem chars_deliveries (offset : Nat) (position : Position) (decoded : List Rune) :
    (deliveries offset position decoded).map Delivery.char = decoded.map Rune.char := by
  induction decoded generalizing offset position with
  | nil => rfl
  | cons rune others ih => exact congrArg (rune.char :: ·) (ih _ _)

theorem snapshots_deliveries (offset : Nat) (position : Position) (decoded : List Rune) :
    (deliveries offset position decoded).map Delivery.before =
      snapshots offset position decoded := by
  induction decoded generalizing offset position with
  | nil => rfl
  | cons rune others ih => exact congrArg (⟨offset, position⟩ :: ·) (ih _ _)

theorem before_of_getElem?_deliveries {offset index : Nat} {position : Position}
    {decoded : List Rune} {delivery : Delivery}
    (found : (deliveries offset position decoded)[index]? = some delivery) :
    delivery.before =
      ⟨offset + widths (decoded.take index), position.past (decoded.take index)⟩ := by
  obtain ⟨within, _⟩ := List.getElem?_eq_some_iff.mp found
  rw [length_deliveries] at within
  have same : (snapshots offset position decoded)[index]? = some delivery.before := by
    rw [← snapshots_deliveries, List.getElem?_map, found]
    rfl
  rw [getElem?_snapshots _ _ within] at same
  exact (Option.some.inj same).symm

namespace Reader

/-! ### Keeping account of the moves -/

/-- What a move makes of the runes held so far. -/
def deliver (reader : Reader) (held : List Delivery) : Move → List Delivery
  | .next =>
      match reader.next.1 with
      | some char => held ++ [⟨char, ⟨reader.pending.length, reader.position⟩⟩]
      | none => held
  | .backup count => held.take (held.length - count)
  | .cut => []

def deliverAll (reader : Reader) (held : List Delivery) : List Move → List Delivery
  | [] => held
  | move :: others => (reader.move move).deliverAll (reader.deliver held move) others

/-- The cuts that the moves make, each with the runes held when it was made. -/
def cutRecords (reader : Reader) (held : List Delivery) : List Move → List CutRecord
  | [] => []
  | .next :: others => reader.next.2.cutRecords (reader.deliver held .next) others
  | .backup count :: others =>
      (reader.backup count).cutRecords (reader.deliver held (.backup count)) others
  | .cut :: others =>
      ⟨⟨reader.pending, reader.tokenStart⟩, held⟩ :: reader.ignore.cutRecords [] others

theorem lexemes_cutRecords (reader : Reader) (held : List Delivery) (moves : List Move) :
    (reader.cutRecords held moves).map CutRecord.lexeme = reader.lexemesCut moves := by
  induction moves generalizing reader held with
  | nil => rfl
  | cons move others ih =>
      cases move with
      | next => exact ih _ _
      | backup count => exact ih _ _
      | cut => exact congrArg (_ :: ·) (ih _ _)

/-! ### The account and the pending bytes -/

def owed (reader : Reader) : List Delivery :=
  deliveries 0 reader.tokenStart (runes reader.pending)

theorem owed_start (source : Source) (sizing : Sizing) : (start source sizing).owed = [] := by
  change deliveries 0 _ (runes []) = []
  rw [Utf8.runes_nil]
  rfl

theorem Passes.owed_eq {before after : Reader} {passed : List Rune}
    (passes : Passes before passed after) (sound : before.Sound) : after.owed =
      before.owed ++ deliveries before.pending.length before.position passed := by
  unfold owed
  rw [passes.tokenStart_eq, passes.runes_eq, deliveries_append, Nat.zero_add, Utf8.widths_runes,
    sound.position_eq]

theorem Sound.deliver {reader : Reader} (sound : reader.Sound) (move : Move) :
    reader.deliver reader.owed move = (reader.move move).owed := by
  cases move with
  | next =>
      have finish := sound.next.2
      unfold Reader.deliver Reader.move
      generalize reader.next = result at finish ⊢
      rcases result with ⟨answer, after⟩
      cases finish with
      | read rune _ passes _ => exact (passes.owed_eq sound).symm
      | ended _ passes _ _ => exact ((passes.owed_eq sound).trans (List.append_nil _)).symm
      | stalled _ passes _ _ _ => exact ((passes.owed_eq sound).trans (List.append_nil _)).symm
  | backup count =>
      change reader.owed.take (reader.owed.length - count) = (reader.backup count).owed
      unfold owed
      rw [take_deliveries, length_deliveries, sound.runes_backup,
        (sound.backup count).2.tokenStart_eq]
  | cut =>
      change [] = reader.ignore.owed
      rw [owed, pending_ignore, Utf8.runes_nil]
      rfl

theorem Sound.moveAll {reader : Reader} (sound : reader.Sound) (moves : List Move) :
    (reader.moveAll moves).Sound :=
  ((reader.moveAll_reaches moves).later sound).sound

theorem Sound.deliverAll {reader : Reader} (sound : reader.Sound) (moves : List Move) :
    reader.deliverAll reader.owed moves = (reader.moveAll moves).owed := by
  induction moves generalizing reader with
  | nil => rfl
  | cons move others ih =>
      rw [Reader.deliverAll, sound.deliver]
      exact ih (sound.moveAll [move])

/-- The runes held at a cut are those of its text, delivered from its position on. -/
theorem Sound.mem_cutRecords {reader : Reader} (sound : reader.Sound) {moves : List Move}
    {record : CutRecord} (member : record ∈ reader.cutRecords reader.owed moves) :
    record.held = deliveries 0 record.lexeme.position (runes record.lexeme.text) := by
  induction moves generalizing reader with
  | nil => cases member
  | cons move others ih =>
      have later := ih (sound.moveAll [move])
      cases move with
      | next =>
          rw [cutRecords, sound.deliver] at member
          exact later member
      | backup count =>
          rw [cutRecords, sound.deliver] at member
          exact later member
      | cut =>
          rw [cutRecords] at member
          rcases List.mem_cons.mp member with rfl | behind
          · rfl
          · have dropped : ([] : List Delivery) = reader.ignore.owed := sound.deliver .cut
            rw [dropped] at behind
            exact later behind

end Reader

/-! ### The mirror -/

/-- The pending bytes decode alone to the runes held, and the stack holds the cursor before each. -/
structure Mirrors (reader : Reader) (held : List Delivery) (decoded : List Rune) : Prop where
  decodes : Utf8.Decodes reader.pending decoded
  length_eq : reader.history.length = decoded.length
  chars_eq : decoded.map Rune.char = held.map Delivery.char
  history_eq : reader.history.reverse = held.map Delivery.before
  before_eq : ∀ index (delivery : Delivery), held[index]? = some delivery → delivery.before =
    ⟨widths (decoded.take index), reader.tokenStart.past (decoded.take index)⟩
  first_eq : ∀ delivery : Delivery, held[0]? = some delivery → delivery.before = ⟨0, reader.tokenStart⟩
  /-- The text that a cut would hand out now decodes to the same runes. -/
  emitted : Utf8.Decodes reader.emit.1.text decoded

structure CutRecord.Recalls (record : CutRecord) (decoded : List Rune) : Prop where
  decodes : Utf8.Decodes record.lexeme.text decoded
  chars_eq : decoded.map Rune.char = record.held.map Delivery.char
  first_eq : ∀ delivery : Delivery, record.held[0]? = some delivery →
    delivery.before = ⟨0, record.lexeme.position⟩

theorem Reader.Sound.mirrors {reader : Reader} (sound : reader.Sound) :
    Mirrors reader reader.owed (runes reader.pending) := by
  refine
    { decodes := Utf8.decodes_runes _
      length_eq := sound.history_length
      chars_eq := (chars_deliveries _ _ _).symm
      history_eq := ?_
      before_eq := ?_
      first_eq := fun _ found => before_of_getElem?_deliveries found
      emitted := Utf8.decodes_runes _ }
  · rw [sound.history_eq, List.reverse_reverse]
    exact (snapshots_deliveries _ _ _).symm
  · intro index delivery found
    have before := before_of_getElem?_deliveries found
    rw [Nat.zero_add] at before
    exact before

theorem Reader.Sound.recalls {reader : Reader} (sound : reader.Sound) {moves : List Reader.Move}
    {record : CutRecord} (member : record ∈ reader.cutRecords reader.owed moves) :
    record.Recalls (runes record.lexeme.text) := by
  have same := sound.mem_cutRecords member
  refine ⟨Utf8.decodes_runes _, ?_, ?_⟩
  · rw [same, chars_deliveries]
  · rw [same]
    exact fun _ found => before_of_getElem?_deliveries found

/-- After any moves the stack mirrors what the moves have delivered, and so does what each cut was made
from. A run of commands is the run of the moves it makes, and every lexeme that it hands out is that of
one of the cuts, in their order. -/
theorem history_mirrors_token {source : Source} (honest : source.Honest) (sizing : Sizing) :
    let fresh := Reader.start source sizing
    (∀ moves, ∃ decoded, Mirrors (fresh.moveAll moves) (fresh.deliverAll [] moves) decoded) ∧
    (∀ moves, ∀ record ∈ fresh.cutRecords [] moves, ∃ decoded, record.Recalls decoded) ∧
    ∀ commands, fresh.moveAll (fresh.movesByAll commands) = (fresh.performAll commands).2 ∧
      ∃ handed : List CutRecord,
        handed.map CutRecord.lexeme = (fresh.performAll commands).1.flatMap Answer.lexemes ∧
        handed.Sublist (fresh.cutRecords [] (fresh.movesByAll commands)) ∧
        ∀ record ∈ handed, ∃ decoded, record.Recalls decoded := by
  intro fresh
  have sound : fresh.Sound := Reader.sound_start honest sizing
  have nothing : fresh.owed = [] := Reader.owed_start source sizing
  have recalls (moves : List Reader.Move) :
      ∀ record ∈ fresh.cutRecords [] moves, ∃ decoded, record.Recalls decoded := by
    intro record member
    rw [← nothing] at member
    exact ⟨_, sound.recalls member⟩
  refine ⟨?_, recalls, ?_⟩
  · intro moves
    have held := sound.deliverAll moves
    rw [nothing] at held
    rw [held]
    exact ⟨_, (sound.moveAll moves).mirrors⟩
  · intro commands
    refine ⟨(Reader.performAll_leads fresh commands).moveAll_eq, ?_⟩
    have handed := fresh.performAll_lexemes commands
    rw [← Reader.lexemes_cutRecords fresh []] at handed
    obtain ⟨records, sublist, same⟩ := List.sublist_map_iff.mp handed
    exact ⟨records, same.symm, sublist, fun record member =>
      recalls _ record (sublist.subset member)⟩

/-- The beginning of a scalar value stalls, turns out to be malformed, and is cut in two; the window
grows and slides, and the stream ends within another scalar value. The text before the cut is handed
out. -/
theorem history_mirrors_token_cut_inside :
    let source := Source.ofEvents [.data [0x61, 0xE2, 0x82], .failure ⟨.wouldBlock, none⟩,
      .data [0x62, 0xF0, 0x9F]]
    let fresh := Reader.start source ⟨4, 4⟩
    let commands : List Command := [.next, .next, .next, .backup 1, .next, .emit, .next, .next,
      .next, .next, .next, .backup 1]
    let moves := fresh.movesByAll commands
    source.Honest ∧
    (fresh.performAll commands).1.flatMap Answer.lexemes = [⟨[0x61, 0xE2], ⟨1, 1⟩⟩] ∧
    fresh.cutRecords [] moves =
      [⟨⟨[0x61, 0xE2], ⟨1, 1⟩⟩, [⟨'a', 0, 1, 1⟩, ⟨Utf8.replacement, 1, 1, 2⟩]⟩] ∧
    (fresh.moveAll moves).pending = [0x82, 0x62, 0xF0] ∧
    fresh.deliverAll [] moves =
      [⟨Utf8.replacement, 0, 1, 3⟩, ⟨'b', 1, 1, 4⟩, ⟨Utf8.replacement, 2, 1, 5⟩] ∧
    (∃ decoded, Mirrors (fresh.moveAll moves) (fresh.deliverAll [] moves) decoded) ∧
    ∃ handed : List CutRecord,
      handed.map CutRecord.lexeme = (fresh.performAll commands).1.flatMap Answer.lexemes ∧
      handed.Sublist (fresh.cutRecords [] moves) ∧
      ∀ record ∈ handed, ∃ decoded, record.Recalls decoded := by
  intro source fresh commands moves
  have honest : source.Honest := by decide
  have emitted : (fresh.performAll commands).1.flatMap Answer.lexemes =
      [⟨[0x61, 0xE2], ⟨1, 1⟩⟩] := by decide +kernel
  have records : fresh.cutRecords [] moves =
      [⟨⟨[0x61, 0xE2], ⟨1, 1⟩⟩, [⟨'a', 0, 1, 1⟩, ⟨Utf8.replacement, 1, 1, 2⟩]⟩] := by
    decide +kernel
  have pending : (fresh.moveAll moves).pending = [0x82, 0x62, 0xF0] := by decide +kernel
  have held : fresh.deliverAll [] moves =
      [⟨Utf8.replacement, 0, 1, 3⟩, ⟨'b', 1, 1, 4⟩, ⟨Utf8.replacement, 2, 1, 5⟩] := by
    decide +kernel
  obtain ⟨mirrors, _, handed⟩ := history_mirrors_token honest ⟨4, 4⟩
  exact ⟨honest, emitted, records, pending, held, mirrors moves, (handed commands).2⟩

end RuneScan
