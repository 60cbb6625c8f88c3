import RuneScan.Proofs.StreamLaw
import RuneScan.Proofs.UndoStack

/-!
The law of positions. A position counts the newlines before it and the runes after the last of them,
whatever was undone, cut off or malformed on the way. So the runes in front of the cursor fix its
position, those in front of a token fix the token's, and positions grow with every rune.
-/

namespace RuneScan

open Utf8 (Seam runes)

namespace Position

/-- The position after some runes of an input: a line for each newline among them, and a column for
each rune after the last newline, both counted from one. -/
def after (passed : List Char) : Position :=
  ⟨1 + passed.count '\n', 1 + (passed.reverse.takeWhile (· ≠ '\n')).length⟩

theorem after_concat (passed : List Char) (rune : Char) :
    after (passed ++ [rune]) = (after passed).advance rune := by
  by_cases newline : rune = '\n'
  · subst newline
    simp [after, advance, Nat.add_assoc]
  · simp [after, advance, newline, Nat.add_assoc]

theorem past_after (passed : List Char) (others : List Rune) :
    (after passed).past others = after (passed ++ others.map Rune.char) := by
  induction others generalizing passed with
  | nil => rw [past_nil, List.map_nil, List.append_nil]
  | cons rune others ih =>
      rw [past_cons, ← after_concat, ih, List.append_assoc, List.singleton_append, List.map_cons]

theorem lt_trans {first second third : Position} (earlier : first < second)
    (later : second < third) : first < third := by
  change Precedes _ _ at earlier later ⊢
  unfold Precedes at earlier later ⊢
  omega

theorem lt_advance (position : Position) (rune : Char) : position < position.advance rune := by
  change Precedes _ _
  unfold Precedes advance
  split
  · exact .inl (Nat.lt_succ_self _)
  · exact .inr ⟨rfl, Nat.lt_succ_self _⟩

theorem after_lt_after_append (passed : List Char) {more : List Char} (some : more ≠ []) :
    after passed < after (passed ++ more) := by
  induction more generalizing passed with
  | nil => contradiction
  | cons rune others ih =>
      have step : after passed < after (passed ++ [rune]) := by
        rw [after_concat]
        exact lt_advance _ rune
      cases others with
      | nil => exact step
      | cons next others =>
          have rest := ih (passed ++ [rune]) (List.cons_ne_nil next others)
          rw [List.append_assoc, List.singleton_append] at rest
          exact lt_trans step rest

def ofIndex (decoded : List Rune) (index : Nat) : Position :=
  after ((decoded.take index).map Rune.char)

theorem ofIndex_lt {decoded : List Rune} {first second : Nat} (less : first < second)
    (within : second ≤ decoded.length) : ofIndex decoded first < ofIndex decoded second := by
  have parts : decoded.take second = decoded.take first ++ (decoded.take second).drop first := by
    have whole := List.take_append_drop first (decoded.take second)
    rw [List.take_take, Nat.min_eq_left (Nat.le_of_lt less)] at whole
    exact whole.symm
  unfold ofIndex
  rw [parts, List.map_append]
  apply after_lt_after_append
  intro empty
  have none := congrArg List.length empty
  simp only [List.length_map, List.length_drop, List.length_take, List.length_nil] at none
  omega

theorem ofIndex_length (before others : List Rune) :
    ofIndex (before ++ others) before.length = after (before.map Rune.char) := by
  rw [ofIndex, List.take_left]

end Position

/-! ### The pieces that are cut off -/

structure Piece where
  start : Nat
  lexeme : Lexeme
deriving DecidableEq, Repr

namespace Reader

def pieces (start : Nat) (reader : Reader) : List Move → List Piece
  | [] => []
  | .next :: others => pieces start reader.next.2 others
  | .backup count :: others => pieces start (reader.backup count) others
  | .cut :: others =>
      ⟨start, reader.emit.1⟩ :: pieces (start + (runes reader.pending).length) reader.ignore others

theorem start_le_pieces {start : Nat} {reader : Reader} {moves : List Move} {piece : Piece}
    (member : piece ∈ pieces start reader moves) : start ≤ piece.start := by
  induction moves generalizing start reader with
  | nil => cases member
  | cons move others ih =>
      cases move with
      | next => exact ih member
      | backup count => exact ih member
      | cut =>
          rcases List.mem_cons.mp member with rfl | later
          · exact Nat.le_refl _
          · exact Nat.le_trans (Nat.le_add_right _ _) (ih later)

theorem pieces_pairwise (start : Nat) (reader : Reader) (moves : List Move) :
    (pieces start reader moves).Pairwise (fun earlier later => earlier.start ≤ later.start) := by
  induction moves generalizing start reader with
  | nil => exact .nil
  | cons move others ih =>
      cases move with
      | next => exact ih _ _
      | backup count => exact ih _ _
      | cut =>
          apply List.Pairwise.cons _ (ih _ _)
          intro later member
          exact Nat.le_trans (Nat.le_add_right _ _) (start_le_pieces member)

/-! ### Where a token stands -/

structure Stands (decoded before : List Rune) (reader : Reader) : Prop where
  sound : reader.Sound
  stream_eq : decoded = before ++ runes (reader.pending ++ reader.coming)
  tokenStart_eq : reader.tokenStart = .after (before.map Rune.char)

variable {decoded before : List Rune} {reader after : Reader}

theorem Stands.parts (stands : Stands decoded before reader) :
    decoded = before ++ (runes reader.pending ++ runes reader.coming) := by
  have seam := stands.sound.seam
  unfold Seam at seam
  rw [← seam]
  exact stands.stream_eq

theorem Stands.position_eq (stands : Stands decoded before reader) :
    reader.position = .after ((before ++ runes reader.pending).map Rune.char) := by
  rw [stands.sound.position_eq, stands.tokenStart_eq, Position.past_after, List.map_append]

theorem Stands.of_passes {passed : List Rune} (stands : Stands decoded before reader)
    (passes : Passes reader passed after) (sound : after.Sound) : Stands decoded before after := by
  refine ⟨sound, ?_, passes.tokenStart_eq.trans stands.tokenStart_eq⟩
  rw [passes.whole_eq]
  exact stands.stream_eq

theorem Stands.next (stands : Stands decoded before reader) :
    Stands decoded before reader.next.2 := by
  obtain ⟨later, finish⟩ := stands.sound.next
  obtain ⟨passed, passes⟩ := finish.passes
  exact stands.of_passes passes later.sound

theorem Stands.backup (stands : Stands decoded before reader) (count : Nat) :
    Stands decoded before (reader.backup count) := by
  obtain ⟨later, passes⟩ := stands.sound.backup count
  refine ⟨later.sound, ?_, passes.tokenStart_eq.symm.trans stands.tokenStart_eq⟩
  rw [← passes.whole_eq]
  exact stands.stream_eq

theorem Stands.ignore (stands : Stands decoded before reader) :
    Stands decoded (before ++ runes reader.pending) reader.ignore := by
  refine ⟨stands.sound.ignore.sound, ?_, stands.position_eq⟩
  rw [pending_ignore, coming_ignore, List.nil_append, List.append_assoc]
  exact stands.parts

end Reader

structure Piece.Placed (decoded : List Rune) (piece : Piece) : Prop where
  text : ∃ inside others, decoded.drop piece.start = inside ++ others ∧
    Utf8.Decodes piece.lexeme.text inside
  start_le : piece.start ≤ decoded.length
  position_eq : piece.lexeme.position = .ofIndex decoded piece.start

/-- The later piece stands behind the earlier one, or at the same place if no rune was cut off
between their starts. -/
def Piece.Follows (earlier later : Piece) : Prop :=
  (earlier.start = later.start ∧ earlier.lexeme.position = later.lexeme.position) ∨
    (earlier.start < later.start ∧ earlier.lexeme.position < later.lexeme.position)

theorem Piece.Placed.follows {decoded : List Rune} {earlier later : Piece}
    (first : earlier.Placed decoded) (second : later.Placed decoded)
    (ordered : earlier.start ≤ later.start) : earlier.Follows later := by
  unfold Follows
  rw [first.position_eq, second.position_eq]
  rcases Nat.lt_or_eq_of_le ordered with less | same
  · exact .inr ⟨less, Position.ofIndex_lt less second.start_le⟩
  · exact .inl ⟨same, by rw [same]⟩

namespace Reader

variable {decoded before : List Rune} {reader : Reader}

theorem Stands.placed (stands : Stands decoded before reader) :
    Piece.Placed decoded ⟨before.length, reader.emit.1⟩ := by
  have parts := stands.parts
  refine ⟨⟨runes reader.pending, runes reader.coming, ?_, Utf8.decodes_runes _⟩, ?_, ?_⟩
  · rw [parts]
    exact List.drop_left
  · rw [parts, List.length_append]
    exact Nat.le_add_right _ _
  · rw [stands.stream_eq, Position.ofIndex_length]
    exact stands.tokenStart_eq

theorem Stands.pieces_placed (stands : Stands decoded before reader) (moves : List Move) :
    ∀ piece ∈ pieces before.length reader moves, piece.Placed decoded := by
  induction moves generalizing before reader with
  | nil =>
      intro piece member
      cases member
  | cons move others ih =>
      cases move with
      | next => exact ih stands.next
      | backup count => exact ih (stands.backup count)
      | cut =>
          have later := ih stands.ignore
          rw [List.length_append] at later
          intro piece member
          rcases List.mem_cons.mp member with rfl | member
          · exact stands.placed
          · exact later piece member

/-! ### The lexemes that a client receives -/

theorem lexemes_pieces (start : Nat) (reader : Reader) (moves : List Move) :
    (pieces start reader moves).map Piece.lexeme = reader.lexemesCut moves := by
  induction moves generalizing start reader with
  | nil => rfl
  | cons move others ih =>
      cases move with
      | next => exact ih _ _
      | backup count => exact ih _ _
      | cut => exact congrArg (reader.emit.1 :: ·) (ih _ _)

/-! ### Where the cursor stands -/

theorem stands_start {source : Source} (honest : source.Honest) (sizing : Sizing) :
    Stands (runes source.stream) [] (start source sizing) :=
  ⟨sound_start honest sizing, rfl, rfl⟩

/-- The pending token begins behind the runes of the texts cut off. -/
theorem Reaches.stands {source : Source} {sizing : Sizing} {texts : List (List UInt8)}
    {reader : Reader} (reaches : Reaches (start source sizing) texts reader)
    (honest : source.Honest) : Stands (runes source.stream) (runes texts.flatten) reader := by
  have kept : Reaches (start source sizing) texts reader ∧
      Stands (runes source.stream) (runes texts.flatten) reader := by
    apply reaches.induction (motive := fun reader texts =>
      Reaches (start source sizing) texts reader ∧
        Stands (runes source.stream) (runes texts.flatten) reader)
    · refine ⟨.refl _, ?_⟩
      rw [List.flatten_nil, Utf8.runes_nil]
      exact stands_start honest sizing
    · intro reader texts ⟨held, stands⟩
      have step := held.trans (next_leads reader).reaches
      rw [List.append_nil] at step
      exact ⟨step, stands.next⟩
    · intro reader texts count ⟨held, stands⟩
      have step := held.trans (backup_leads reader count).reaches
      rw [List.append_nil] at step
      exact ⟨step, stands.backup count⟩
    · intro reader texts ⟨held, stands⟩
      refine ⟨held.trans (ignore_leads reader).reaches, ?_⟩
      have seam : runes (texts.flatten ++ reader.pending) = _ ++ _ :=
        (held.whole (sound_start honest sizing)).2.of_append
      rw [List.flatten_append, List.flatten_singleton, seam]
      exact stands.ignore
  exact kept.2

end Reader

/-- The runes before the cursor are those cut off, and then those of the pending token that have been
yielded and not undone. They fix the position of the cursor, and the first of them that of the
token. -/
structure Located (decoded before inside : List Rune) (texts : List (List UInt8))
    (held : List Delivery) (reader : Reader) : Prop where
  stream : ∃ others, decoded = (before ++ inside) ++ others
  cut : Utf8.Decodes texts.flatten before
  pending : Utf8.Decodes reader.pending inside
  held_eq : inside.map Rune.char = held.map Delivery.char
  position_eq : reader.position = .after ((before ++ inside).map Rune.char)
  tokenStart_eq : reader.tokenStart = .after (before.map Rune.char)

namespace Reader

theorem located {source : Source} (honest : source.Honest) (sizing : Sizing) (moves : List Move) :
    let fresh := start source sizing
    ∃ before inside, Located (runes source.stream) before inside (fresh.cutTexts moves)
      (fresh.deliverAll [] moves) (fresh.moveAll moves) := by
  intro fresh
  have sound : fresh.Sound := sound_start honest sizing
  have stands := (fresh.moveAll_reaches moves).stands honest
  have nothing : fresh.owed = [] := owed_start source sizing
  have held := sound.deliverAll moves
  rw [nothing] at held
  have stream := stands.parts
  rw [← List.append_assoc] at stream
  refine ⟨_, _, ⟨_, stream⟩, Utf8.decodes_runes _, Utf8.decodes_runes _, ?_, stands.position_eq,
    stands.tokenStart_eq⟩
  rw [held]
  exact (chars_deliveries _ _ _).symm

theorem pieces_follow {source : Source} (honest : source.Honest) (sizing : Sizing)
    (moves : List Move) :
    (∀ piece ∈ pieces 0 (start source sizing) moves, piece.Placed (runes source.stream)) ∧
      (pieces 0 (start source sizing) moves).Pairwise Piece.Follows := by
  have placed := (stands_start honest sizing).pieces_placed moves
  refine ⟨placed, ?_⟩
  apply (pieces_pairwise 0 (start source sizing) moves).imp_of_mem
  intro earlier later first second ordered
  exact (placed earlier first).follows (placed later second) ordered

end Reader

/-- After any moves the runes before the cursor fix where it stands, and every piece that was cut off
stands where the runes before it say; pieces handed out one after the other stand one behind the
other, at one place only if no rune was cut off between their starts. -/
theorem positions_count_lines {source : Source} (honest : source.Honest) {decoded : List Rune}
    (decodes : Utf8.Decodes source.stream decoded) (sizing : Sizing) :
    let fresh := Reader.start source sizing
    (∀ moves,
      (∃ before inside, Located decoded before inside (fresh.cutTexts moves)
        (fresh.deliverAll [] moves) (fresh.moveAll moves)) ∧
      (∀ piece ∈ Reader.pieces 0 fresh moves, piece.Placed decoded) ∧
      (Reader.pieces 0 fresh moves).Pairwise Piece.Follows) ∧
    (∀ commands, fresh.moveAll (fresh.movesByAll commands) = (fresh.performAll commands).2 ∧
      ∃ emitted : List Piece,
        emitted.map Piece.lexeme = (fresh.performAll commands).1.flatMap Answer.lexemes ∧
        emitted.Sublist (Reader.pieces 0 fresh (fresh.movesByAll commands)) ∧
        emitted.Pairwise Piece.Follows) ∧
    ∀ first second, first < second → second ≤ decoded.length →
      Position.ofIndex decoded first < Position.ofIndex decoded second := by
  intro fresh
  rw [decodes.eq_runes]
  refine ⟨?_, ?_, ?_⟩
  · intro moves
    exact ⟨Reader.located honest sizing moves, Reader.pieces_follow honest sizing moves⟩
  · intro commands
    refine ⟨(Reader.performAll_leads fresh commands).moveAll_eq, ?_⟩
    have handed := fresh.performAll_lexemes commands
    rw [← Reader.lexemes_pieces 0] at handed
    obtain ⟨emitted, sublist, same⟩ := List.sublist_map_iff.mp handed
    have follow := (Reader.pieces_follow honest sizing (fresh.movesByAll commands)).2
    exact ⟨emitted, same.symm, sublist, follow.sublist sublist⟩
  · intro first second less within
    exact Position.ofIndex_lt less within

/-- The beginning of a scalar value proves malformed after a stall. The reader goes back over a
newline and takes it again, and each line it hands out has its own number. -/
theorem positions_count_lines_malformed :
    let source := Source.ofEvents [.data [0x61, 0x0A, 0xE2], .failure ⟨.wouldBlock, none⟩,
      .data [0x82, 0x0A, 0x62]]
    let fresh := Reader.start source ⟨4, 4⟩
    let decoded : List Rune := [⟨'a', 1⟩, ⟨'\n', 1⟩, ⟨Utf8.replacement, 1⟩, ⟨Utf8.replacement, 1⟩,
      ⟨'\n', 1⟩, ⟨'b', 1⟩]
    let commands := [.next, .next, .backup 1, .next, .emit, .next, .next, .next, .emit, .next]
    source.Honest ∧ Utf8.Decodes source.stream decoded ∧
      (fresh.performAll commands).1.flatMap Answer.lexemes =
        [⟨[0x61, 0x0A], ⟨1, 1⟩⟩, ⟨[0xE2, 0x82, 0x0A], ⟨2, 1⟩⟩] ∧
      (fresh.performAll commands).2.position = ⟨3, 2⟩ ∧
      ∃ emitted : List Piece,
        emitted.map Piece.lexeme = (fresh.performAll commands).1.flatMap Answer.lexemes ∧
        emitted.Sublist (Reader.pieces 0 fresh (fresh.movesByAll commands)) ∧
        emitted.Pairwise Piece.Follows := by
  intro source fresh decoded commands
  have honest : source.Honest := by decide
  have stream : Utf8.runes source.stream = decoded := by decide +kernel
  have decodes : Utf8.Decodes source.stream decoded := stream ▸ Utf8.decodes_runes _
  have handed : (fresh.performAll commands).1.flatMap Answer.lexemes =
      [⟨[0x61, 0x0A], ⟨1, 1⟩⟩, ⟨[0xE2, 0x82, 0x0A], ⟨2, 1⟩⟩] := by decide +kernel
  have position : (fresh.performAll commands).2.position = ⟨3, 2⟩ := by decide +kernel
  obtain ⟨_, emitted, _⟩ := positions_count_lines honest decodes ⟨4, 4⟩
  exact ⟨honest, decodes, handed, position, (emitted commands).2⟩

end RuneScan
