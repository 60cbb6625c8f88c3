import RuneScan.Proofs.Demand

/-!
Going back and on again. A rune was yielded only when no further byte could change it, and the bytes
in use stay where they are behind the start of the token. So the runes that are given back are yielded
again, one by one, from the bytes at hand.
-/

namespace RuneScan

/-! ### Runes that no further byte can change -/

namespace Utf8

/-- The bytes begin with the runes, and whatever may follow cannot change any of them. -/
inductive Decided (ended : Bool) : List Rune → List UInt8 → Prop where
  | nil (bytes : List UInt8) : Decided ended [] bytes
  | cons (bytes : List UInt8) (others : List Rune) : bytes ≠ [] →
      ended = true ∨ isTruncated bytes = false →
      Decided ended others (bytes.drop (front bytes).width) →
      Decided ended (front bytes :: others) bytes

theorem Decided.append {ended finished : Bool} {decoded : List Rune} {bytes more : List UInt8}
    (decided : Decided ended decoded bytes)
    (closed : ended = true → finished = true ∧ more = []) :
    Decided finished decoded (bytes ++ more) := by
  induction decided with
  | nil bytes => exact .nil _
  | cons bytes others nonempty settled _ ih =>
      have within := front_width_le nonempty
      obtain ⟨same, still⟩ := settled_append nonempty settled closed
      rw [← same]
      apply Decided.cons
      · exact List.append_ne_nil_of_left_ne_nil nonempty _
      · exact still
      · rw [same, List.drop_append_of_le_length within]
        exact ih

theorem decided_append {ended : Bool} {first second : List Rune} {bytes : List UInt8} :
    Decided ended (first ++ second) bytes ↔
      Decided ended first bytes ∧ Decided ended second (bytes.drop (widths first)) := by
  induction first generalizing bytes with
  | nil => exact ⟨fun decided => ⟨.nil _, decided⟩, fun decided => decided.2⟩
  | cons rune others ih =>
      rw [widths_cons, ← List.drop_drop]
      constructor
      · intro decided
        cases decided with
        | cons _ _ nonempty settled rest =>
            obtain ⟨early, late⟩ := ih.mp rest
            exact ⟨.cons _ _ nonempty settled early, late⟩
      · rintro ⟨early, late⟩
        cases early with
        | cons _ _ nonempty settled rest =>
            exact .cons _ _ nonempty settled (ih.mpr ⟨rest, late⟩)

end Utf8

open Utf8 (Decided runes widths)

namespace Reader

structure Certain (reader : Reader) : Prop where
  sound : reader.Sound
  laid : reader.Laid
  decided : Decided reader.intake.hasEnded (runes reader.pending) reader.intake.window.kept

theorem Certain.fill {reader : Reader} (certain : reader.Certain) :
    Certain { reader with intake := reader.intake.fill } := by
  have filled := certain.sound.filled.1.sound
  apply Certain.mk filled certain.laid.fill
  obtain ⟨more, pending, ahead, closed⟩ := certain.laid.intake.fill_later
  have kept : reader.intake.fill.window.kept = reader.intake.window.kept ++ more := by
    rw [certain.sound.kept_eq, List.append_assoc, ← ahead]
    exact filled.kept_eq.trans (congrArg (· ++ _) pending)
  change Decided reader.intake.fill.hasEnded (runes reader.intake.fill.window.pending)
    reader.intake.fill.window.kept
  rw [pending, kept]
  exact certain.decided.append closed

theorem Certain.pass {reader : Reader} (certain : reader.Certain)
    (nonempty : reader.intake.window.ahead ≠ [])
    (settled : reader.intake.hasEnded = true ∨
      Utf8.isTruncated reader.intake.window.ahead = false) :
    (reader.pass (Utf8.front reader.intake.window.ahead)).Certain := by
  have sound := certain.sound
  have same : Utf8.front reader.coming = Utf8.front reader.intake.window.ahead :=
    sound.intake.front_coming nonempty settled
  have available := Utf8.front_width_le nonempty
  have laid : (reader.pass (Utf8.front reader.intake.window.ahead)).Laid := by
    rw [sound.intake.ordered.length_ahead] at available
    exact certain.laid.pass available
  have coming : reader.coming ≠ [] := List.append_ne_nil_of_left_ne_nil nonempty _
  rw [← same] at available
  obtain ⟨later, passes⟩ := sound.pass coming available
  rw [same] at later passes
  apply Certain.mk later.sound laid
  -- Passing a rune leaves the bytes in use as they are.
  change Decided reader.intake.hasEnded _ reader.intake.window.kept
  rw [passes.runes_eq, Utf8.decided_append]
  apply And.intro certain.decided
  rw [Utf8.widths_runes, sound.kept_eq, List.drop_left]
  exact .cons _ [] nonempty settled (.nil _)

theorem Certain.next {reader : Reader} (certain : reader.Certain) : reader.next.2.Certain := by
  rcases next_decoded reader with ⟨missed, _⟩ | ⟨taken, nonempty, settled⟩
  · rw [missed]
    exact certain.fill
  · rw [taken]
    exact certain.fill.pass nonempty settled

theorem Certain.backup {reader : Reader} (certain : reader.Certain) (count : Nat) :
    (reader.backup count).Certain := by
  apply Certain.mk (certain.sound.backup count).1.sound (certain.laid.backup count)
  have decided := certain.decided
  rw [← List.take_append_drop ((runes reader.pending).length - count) (runes reader.pending)]
    at decided
  rw [certain.sound.runes_backup, backup_kept, Intake.hasEnded, backup_condition]
  exact (Utf8.decided_append.mp decided).1

/-- The runes given back are decided by the bytes ahead. -/
theorem Certain.decided_backup {reader : Reader} (certain : reader.Certain) (count : Nat) :
    Decided (reader.backup count).intake.hasEnded
      ((runes reader.pending).drop ((runes reader.pending).length - count))
      (reader.backup count).intake.window.ahead := by
  have decided := certain.decided
  have kept := (certain.sound.backup count).1.sound.kept_eq
  rw [← List.take_append_drop ((runes reader.pending).length - count) (runes reader.pending)]
    at decided
  rw [Intake.hasEnded, backup_condition]
  have later := (Utf8.decided_append.mp decided).2
  rw [← certain.sound.runes_backup, Utf8.widths_runes, ← backup_kept reader count, kept,
    List.drop_left] at later
  exact later

theorem Certain.ignore {reader : Reader} (certain : reader.Certain) : reader.ignore.Certain := by
  apply Certain.mk certain.sound.ignore.sound certain.laid.ignore
  rw [pending_ignore, Utf8.runes_nil]
  exact .nil _

theorem Reaches.certain {before after : Reader} {texts : List (List UInt8)}
    (reaches : Reaches before texts after) (certain : before.Certain) : after.Certain := by
  apply reaches.induction (motive := fun reader _ => reader.Certain)
  · exact certain
  · intro reader _ held
    exact held.next
  · intro reader _ count held
    exact held.backup count
  · intro reader _ held
    exact held.ignore

theorem certain_start {source : Source} (honest : source.Honest) (sizing : Sizing) :
    (start source sizing).Certain := by
  apply Certain.mk (sound_start honest sizing) (laid_start source sizing)
  change Decided _ (runes []) _
  rw [Utf8.runes_nil]
  exact .nil _

/-- Runes that are decided are yielded one after the other. -/
theorem Laid.take_decided {reader : Reader} (laid : reader.Laid) {decoded : List Rune}
    (decided : Decided reader.intake.hasEnded decoded reader.intake.window.ahead) :
    (reader.take decoded.length).1 = decoded.map Rune.char := by
  induction decoded generalizing reader with
  | nil => rfl
  | cons rune others ih =>
      cases decided with
      | cons _ _ nonempty settled rest =>
          have taken := laid.next_settled nonempty settled
          have after := laid.next
          obtain ⟨more, _, ahead, closed⟩ := laid.intake.fill_later
          have unread : reader.next.2.intake.window.ahead =
              reader.intake.window.ahead.drop
                (Utf8.front reader.intake.window.ahead).width ++ more := by
            rw [taken, ← List.drop_append_of_le_length (Utf8.front_width_le nonempty), ← ahead]
            exact laid.fill.intake.ordered.ahead_consume _
          have ended : reader.next.2.intake.hasEnded = reader.intake.fill.hasEnded := by
            rw [taken]
            rfl
          have later : Decided reader.next.2.intake.hasEnded others
              reader.next.2.intake.window.ahead := by
            rw [unread, ended]
            exact rest.append closed
          have others := ih after later
          rw [taken] at others
          simp only [List.length_cons, take, taken, others, List.map_cons]

/-! ### The same cursor -/

theorem Sound.take {reader : Reader} (sound : reader.Sound) (count : Nat) :
    (reader.take count).2.Sound ∧ ∃ passed, Passes reader passed (reader.take count).2 ∧
      passed.map Rune.char = (reader.take count).1 := by
  induction count generalizing reader with
  | zero => exact ⟨sound, [], .refl reader, rfl⟩
  | succ count ih =>
      obtain ⟨later, finish⟩ := sound.next
      unfold Reader.take
      generalize reader.next = result at later finish ⊢
      rcases result with ⟨answer, after⟩
      cases finish with
      | read rune _ passes _ =>
          obtain ⟨last, passed, others, same⟩ := ih later.sound
          exact ⟨last, rune :: passed, passes.trans others, congrArg (rune.char :: ·) same⟩
      | ended _ passes _ _ => exact ⟨later.sound, [], passes, rfl⟩
      | stalled _ passes _ _ _ => exact ⟨later.sound, [], passes, rfl⟩

/-- Taking fewer runes gives the first of them. -/
theorem take_fewer (reader : Reader) {fewer count : Nat} (within : fewer ≤ count) :
    (reader.take fewer).1 = (reader.take count).1.take fewer := by
  induction fewer generalizing reader count with
  | zero => rfl
  | succ fewer ih =>
      cases count with
      | zero => exact absurd within (Nat.not_succ_le_zero _)
      | succ count =>
          unfold take
          generalize reader.next = result
          rcases result with ⟨answer, after⟩
          cases answer with
          | none => rfl
          | some rune => exact congrArg (rune :: ·) (ih after (Nat.le_of_succ_le_succ within))

/-- As many runes of the same stream leave the same cursor. -/
theorem Passes.sameCursor_take {before back : Reader} (passes : Passes before [] back)
    (sound : before.Sound) (back_sound : back.Sound) {count : Nat}
    (same : (back.take count).1 = (before.take count).1) :
    SameCursor (back.take count).2 (before.take count).2 := by
  obtain ⟨left_sound, again, left, left_chars⟩ := back_sound.take count
  obtain ⟨right_sound, passed, right, right_chars⟩ := sound.take count
  have whole := passes.trans left
  rw [List.nil_append] at whole
  have length : again.length = passed.length := by
    rw [← List.length_map Rune.char, left_chars, same, ← right_chars, List.length_map]
  have stream := whole.runes_coming sound left_sound
  rw [right.runes_coming sound right_sound] at stream
  rw [← List.append_inj_left stream length.symm] at whole
  exact whole.sameCursor right left_sound right_sound

end Reader

/-! ### The law -/

structure Rewinds (reader : Reader) : Prop where
  restores : ∀ count, (reader.take count).1.length = count →
    ((reader.take count).2.backup count).SameCursor reader
  replays : ∀ count, (reader.take count).1.length = count → ∀ fewer ≤ count,
    (((reader.take count).2.backup count).take fewer).1 = (reader.take count).1.take fewer ∧
    (((reader.take count).2.backup count).take fewer).2.SameCursor (reader.take fewer).2
  joins : ∀ first second, (reader.backup first).backup second = reader.backup (first + second)
  bottoms : ∀ count, reader.history.length ≤ count →
    (reader.backup count).pending = [] ∧ (reader.backup count).position = reader.tokenStart ∧
      (reader.backup count).history = []
  stays : ∀ count, (reader.backup count).tokenStart = reader.tokenStart ∧
    (reader.backup count).pending <+: reader.pending ∧
    (reader.backup count).intake.window.start = reader.intake.window.start ∧
    reader.intake.window.start ≤ (reader.backup count).intake.window.current

namespace Reader

/-- A cursor that has gone back stands where it stood, and as many runes as it gave back are decided. -/
theorem Certain.given_back {reader : Reader} (certain : reader.Certain) {count : Nat}
    (all : (reader.take count).1.length = count) :
    Passes reader [] ((reader.take count).2.backup count) ∧
      ((reader.take count).2.backup count).Certain ∧
      ∀ fewer ≤ count, (((reader.take count).2.backup count).take fewer).1 =
        (reader.take count).1.take fewer := by
  obtain ⟨sound, passed, passes, chars⟩ := certain.sound.take count
  have after := (take_leads count reader).reaches.certain certain
  have back := after.backup count
  have undone := passes.backup sound
  have length : passed.length = count := by rw [← List.length_map Rune.char, chars, all]
  rw [length] at undone
  refine ⟨undone, back, ?_⟩
  have kept : (runes (reader.take count).2.pending).length - count =
      (runes reader.pending).length := by
    rw [passes.runes_eq, List.length_append, length, Nat.add_sub_cancel]
  have later := after.decided_backup count
  rw [kept, passes.runes_eq, List.drop_left] at later
  intro fewer within
  rw [← List.take_append_drop fewer passed, Utf8.decided_append] at later
  have taken := back.laid.take_decided later.1
  rw [List.length_take, length, Nat.min_eq_left within] at taken
  rw [taken, List.map_take, chars]

theorem Certain.rewinds {reader : Reader} (certain : reader.Certain) : Rewinds reader := by
  have sound := certain.sound
  constructor
  · intro count all
    obtain ⟨undone, back, _⟩ := certain.given_back all
    exact undone.sameCursor (.refl reader) back.sound sound
  · intro count all fewer within
    obtain ⟨undone, back, again⟩ := certain.given_back all
    refine ⟨again fewer within, undone.sameCursor_take sound back.sound ?_⟩
    exact (again fewer within).trans (reader.take_fewer within).symm
  · exact reader.backup_backup
  · intro count within
    have nothing : runes (reader.backup count).pending = [] := by
      rw [sound.runes_backup, ← sound.history_length, Nat.sub_eq_zero_of_le within,
        List.take_zero]
    obtain ⟨later, passes⟩ := sound.backup count
    have empty := Utf8.widths_runes (reader.backup count).pending
    rw [nothing, Utf8.widths_nil] at empty
    refine ⟨List.eq_nil_of_length_eq_zero empty.symm, ?_, ?_⟩
    · rw [later.sound.position_eq, nothing, passes.tokenStart_eq]
      rfl
    · rw [later.sound.history_eq, nothing]
      rfl
  · intro count
    have passes := (sound.backup count).2
    have start : (reader.backup count).intake.window.start = reader.intake.window.start := by
      unfold Reader.backup
      split <;> rfl
    have after := (certain.laid.backup count).intake.ordered.start_le
    rw [start] at after
    exact ⟨passes.tokenStart_eq.symm, ⟨_, passes.pending_eq.symm⟩, start, after⟩

end Reader

/-- In every state that commands lead to, `backup` is the inverse of `next`. -/
theorem backup_inverts_next {source : Source} (honest : source.Honest) (sizing : Sizing)
    (commands : List Command) :
    Rewinds ((Reader.start source sizing).performAll commands).2 := by
  have reaches := Reader.performAll_reaches (Reader.start source sizing) commands
  exact (reaches.certain (Reader.certain_start honest sizing)).rewinds

/-- Three runes are taken over a stall, a scalar value in two pieces and the loss of the connection,
given back, and taken again. -/
theorem backup_inverts_next_lost_connection :
    let source := Source.ofEvents [.data [0x61, 0x62], .failure ⟨.wouldBlock, none⟩,
      .data [0xF0, 0x9F], .data [0x98, 0x80, 0xE2], .failure ⟨.connectionReset, none⟩]
    let reader := ((Reader.start source ⟨4, 4⟩).performAll [.next, .emit]).2
    source.Honest ∧ (reader.take 3).1 = ['b', '😀', Utf8.replacement] ∧
      (((reader.take 3).2.backup 3).take 3).1 = ['b', '😀', Utf8.replacement] ∧
      Rewinds reader := by
  intro source reader
  have honest : source.Honest := by decide
  have taken : (reader.take 3).1 = ['b', '😀', Utf8.replacement] := by decide +kernel
  have rewinds : Rewinds reader := backup_inverts_next honest ⟨4, 4⟩ [.next, .emit]
  have all : (reader.take 3).1.length = 3 := by
    rw [taken]
    rfl
  have again := (rewinds.replays 3 all 3 (Nat.le_refl _)).1
  rw [taken] at again
  exact ⟨honest, taken, again, rewinds⟩

end RuneScan
