import RuneScan.Proofs.StreamLaw
import RuneScan.Proofs.Utf8.Faults

/-!
Malformed input swallows nothing of what follows it. Where a byte list goes on with a byte that can
begin an encoding, no rune crosses over, whatever stands before it: the two parts decode on their
own. So every scalar value that is encoded somewhere in a stream is delivered there, in full.
-/

namespace RuneScan

namespace Utf8

/-- The first byte, if there is one, is not of the kind that follows a lead byte. -/
def StartsAfresh (bytes : List UInt8) : Prop :=
  ∀ byte, bytes.head? = some byte → continues byte = false

theorem startsAfresh_encode (char : Char) (more : List UInt8) :
    StartsAfresh (encode char ++ more) := by
  intro byte first
  obtain ⟨lead, others, front, shape⟩ := lead_of_encode (rfl : encode char ++ more = _)
  rw [front, List.head?_cons, Option.some.injEq] at first
  rw [← first, ← Bool.not_eq_true, continues_iff]
  omega

theorem front_append_afresh {first second : List UInt8} (nonempty : first ≠ [])
    (afresh : StartsAfresh second) : front (first ++ second) = front first := by
  cases found : scalar? first with
  | some rune =>
      unfold front
      rw [found, scalar?_append found]
  | none =>
      -- An encoding that reached across would have a byte at the seam that follows a lead byte.
      have missing : scalar? (first ++ second) = none := by
        rw [Option.eq_none_iff_forall_ne_some]
        intro rune crossing
        obtain ⟨_, rest, same⟩ := encode_of_scalar? crossing
        rcases List.append_eq_append_iff.mp same with ⟨missing, spelled, left⟩ | ⟨more, within, _⟩
        · cases missing with
          | nil =>
              have whole := scalar?_encode rune.char []
              rw [spelled, List.append_nil, List.append_nil, found] at whole
              cases whole
          | cons byte missing =>
              have inside : continues byte = true := by
                refine continues_of_mem_tail (?_ : byte ∈ (encode rune.char).tail)
                rw [spelled, List.tail_append_of_ne_nil nonempty]
                exact List.mem_append_right _ List.mem_cons_self
              rw [afresh byte (by rw [left]; rfl)] at inside
              cases inside
        · rw [within, scalar?_encode] at found
          cases found
      unfold front
      rw [found, missing]

theorem seam_of_startsAfresh (first : List UInt8) {second : List UInt8}
    (afresh : StartsAfresh second) : Seam first second := by
  induction first using runes_induction with
  | nil => exact seam_nil_left second
  | step first nonempty ih =>
      have within := front_width_le nonempty
      unfold Seam at ih ⊢
      rw [runes_of_nonempty (List.append_ne_nil_of_left_ne_nil nonempty second),
        front_append_afresh nonempty afresh, List.drop_append_of_le_length within, ih,
        runes_of_nonempty nonempty]
      rfl

theorem runes_encode_append (char : Char) (more : List UInt8) :
    runes (encode char ++ more) = ⟨char, (encode char).length⟩ :: runes more := by
  rw [runes_of_nonempty (List.append_ne_nil_of_left_ne_nil (encode_ne_nil char) more), front_encode,
    List.drop_left]

/-- A scalar value is decoded in full behind any bytes and before any others. -/
theorem runes_around (first : List UInt8) (char : Char) (second : List UInt8) :
    runes (first ++ encode char ++ second) =
      runes first ++ ⟨char, (encode char).length⟩ :: runes second := by
  have seam : Seam first (encode char ++ second) :=
    seam_of_startsAfresh first (startsAfresh_encode char second)
  unfold Seam at seam
  rw [List.append_assoc, seam, runes_encode_append]

end Utf8

open Utf8 (StartsAfresh decodeAll encode runes)

namespace Reader

/-- Cutting off rune after rune, and asking again where the source was not ready, yields all runes
to come with their widths. -/
theorem Sound.drain {reader : Reader} (sound : reader.Sound) (nothing : reader.pending = [])
    {retries : Nat} (enough : reader.intake.source.stalls ≤ retries) :
    (reader.drain retries).1.filterMap id = runes reader.coming := by
  fun_induction Reader.drain retries reader with
  | case1 retries reader char after taken others last result ih =>
      obtain ⟨later, finish⟩ := sound.next
      rw [taken] at later finish
      cases finish with
      | read rune _ passes front =>
          have width := passes.length_pending
          rw [nothing, List.length_nil, Nat.zero_add, Utf8.widths_cons, Utf8.widths_nil,
            Nat.add_zero] at width
          have rest := ih later.sound.ignore.sound (pending_ignore after)
            (Nat.le_trans later.stalls_le enough)
          rw [result, coming_ignore] at rest
          rw [front, width]
          exact congrArg (rune :: ·) rest
  | case2 reader after taken =>
      obtain ⟨later, finish⟩ := sound.next
      rw [taken] at later finish
      cases finish with
      | ended _ passes _ gone =>
          rw [← (passes.nil_eq sound later.sound).2.1, gone, Utf8.runes_nil]
          rfl
      | stalled _ _ _ stalled _ =>
          exact absurd (Nat.lt_of_lt_of_le stalled.1 enough) (Nat.not_lt_zero _)
  | case3 reader after taken fewer recorded =>
      obtain ⟨later, finish⟩ := sound.next
      rw [taken] at later finish
      cases finish with
      | ended _ passes _ gone =>
          rw [← (passes.nil_eq sound later.sound).2.1, gone, Utf8.runes_nil]
          rfl
      | stalled _ _ live _ _ =>
          rw [error?_of_live live] at recorded
          cases recorded
  | case4 reader after taken fewer unrecorded others last result ih =>
      obtain ⟨later, finish⟩ := sound.next
      rw [taken] at later finish
      cases finish with
      | ended _ _ finished _ => exact absurd finished unrecorded
      | stalled _ passes _ stalled _ =>
          obtain ⟨pending, coming, _⟩ := passes.nil_eq sound later.sound
          have rest := ih later.sound (pending.trans nothing)
            (Nat.le_of_lt_succ (Nat.lt_of_lt_of_le stalled.1 enough))
          rw [result, coming] at rest
          exact rest

end Reader

/-! ### The law -/

/-- A reader over a stream in which the encoding of the scalar value stands behind the first bytes
and before the second ones, however the stream is cut into reads, delivers it there. -/
structure Delivers (source : Source) (sizing : Sizing) (first : List UInt8) (char : Char)
    (second : List UInt8) : Prop where
  /-- A client that cuts off rune after rune, and asks again where the source was not ready,
  receives the runes of the first bytes, the scalar value in full, and the runes of the second
  bytes. -/
  drained : ∀ retries, source.stalls ≤ retries →
    ((Reader.start source sizing).drain retries).1.filterMap id =
      decodeAll true first ++ ⟨char, (encode char).length⟩ :: decodeAll true second
  /-- Whatever a client has done before: where the cursor stands behind the first bytes, the rune
  that is yielded is the scalar value, and the cursor moves past its encoding. -/
  yielded : ∀ commands,
    let fresh := Reader.start source sizing
    let reader := (fresh.performAll commands).2
    ((fresh.cutByAll commands).flatten ++ reader.pending).length = first.length →
      ∀ rune after, reader.next = (some rune, after) →
        rune = char ∧ after.pending = reader.pending ++ encode char
  awaited : ∀ commands,
    let fresh := Reader.start source sizing
    let reader := (fresh.performAll commands).2
    ((fresh.cutByAll commands).flatten ++ reader.pending).length = first.length →
      ∀ calls, (decodeAll true second).length + 1 + source.stalls < calls →
        (reader.retry calls).1 = char :: (decodeAll true second).map Rune.char

theorem malformed_swallows_nothing (first second : List UInt8) (char : Char) :
    (StartsAfresh second →
      decodeAll true (first ++ second) = decodeAll true first ++ decodeAll true second) ∧
    decodeAll true (first ++ encode char ++ second) =
      decodeAll true first ++ ⟨char, (encode char).length⟩ :: decodeAll true second ∧
    ∀ source : Source, source.Honest → source.stream = first ++ encode char ++ second →
      ∀ sizing, Delivers source sizing first char second := by
  simp only [Utf8.decodeAll_ended]
  refine ⟨Utf8.seam_of_startsAfresh first, Utf8.runes_around first char second, ?_⟩
  intro source honest stream sizing
  have standing (commands : List Command)
      (there : (((Reader.start source sizing).cutByAll commands).flatten ++
        ((Reader.start source sizing).performAll commands).2.pending).length = first.length) :
      ((Reader.start source sizing).performAll commands).2.coming = encode char ++ second := by
    have reaches := Reader.performAll_reaches (Reader.start source sizing) commands
    obtain ⟨_, _, whole⟩ := reaches.runes_stream honest
    rw [stream, List.append_assoc first] at whole
    exact (List.append_inj whole there).2
  have fresh := Reader.sound_start honest sizing
  constructor
  · intro retries enough
    have coming : (Reader.start source sizing).coming = source.stream := rfl
    rw [fresh.drain rfl enough, coming, stream, Utf8.decodeAll_ended, Utf8.decodeAll_ended]
    exact Utf8.runes_around first char second
  · intro commands _ reader there rune after taken
    have coming := standing commands there
    have sound := ((Reader.performAll_reaches _ commands).later fresh).sound
    have finish := sound.next.2
    rw [taken] at finish
    cases finish with
    | read rune _ passes front =>
        rw [coming, Utf8.runes_encode_append, List.cons.injEq] at front
        rw [passes.pending_eq, coming, ← front.1, Utf8.widths_cons, Utf8.widths_nil, Nat.add_zero,
          List.take_left]
        exact ⟨rfl, rfl⟩
  · intro commands _ reader there calls enough
    have coming := standing commands there
    have later := (Reader.performAll_reaches _ commands).later fresh
    have decoded := Utf8.runes_encode_append char second
    have fewer : reader.intake.source.stalls ≤ source.stalls := later.stalls_le
    rw [Utf8.decodeAll_ended] at enough ⊢
    rw [← coming] at decoded
    have fits : (runes reader.coming).length + reader.intake.source.stalls < calls := by
      rw [decoded, List.length_cons]
      omega
    have received := (later.sound.retry_all fits).1
    rw [decoded] at received
    exact received

/-- The beginning of a rune of four bytes stands before one of three, which arrives in two pieces
with a stall between them, and a stray byte behind it. The first of them takes up nothing of the
others. -/
theorem malformed_swallows_nothing_cut_rune :
    let first := [0xF0, 0x9F]
    let second := [0x61, 0x80]
    let source := Source.ofEvents [.data [0xF0], .data [0x9F, 0xE2], .failure ⟨.wouldBlock, none⟩,
      .data [0x82, 0xAC, 0x61], .data [0x80], .failure ⟨.connectionReset, none⟩]
    let fresh := Reader.start source ⟨4, 4⟩
    let commands := [.next, .next, .emit, .peek]
    let reader := (fresh.performAll commands).2
    StartsAfresh second ∧ source.Honest ∧ source.stream = first ++ encode '€' ++ second ∧
      source.stalls = 1 ∧
      decodeAll true first = [⟨Utf8.replacement, 1⟩, ⟨Utf8.replacement, 1⟩] ∧
      decodeAll true second = [⟨'a', 1⟩, ⟨Utf8.replacement, 1⟩] ∧
      ((fresh.cutByAll commands).flatten ++ reader.pending).length = first.length ∧
      reader.next.1 = some '€' ∧
      (fresh.drain 1).1.filterMap id = [⟨Utf8.replacement, 1⟩, ⟨Utf8.replacement, 1⟩, ⟨'€', 3⟩,
        ⟨'a', 1⟩, ⟨Utf8.replacement, 1⟩] ∧
      decodeAll true (first ++ second) = decodeAll true first ++ decodeAll true second ∧
      Delivers source ⟨4, 4⟩ first '€' second := by
  intro first second source fresh commands reader
  have afresh : StartsAfresh second := by
    intro byte head
    cases head
    decide
  have honest : source.Honest := by decide
  have stream : source.stream = first ++ encode '€' ++ second := by decide +kernel
  have stalls : source.stalls = 1 := by decide
  have before : decodeAll true first = [⟨Utf8.replacement, 1⟩, ⟨Utf8.replacement, 1⟩] := by
    decide +kernel
  have behind : decodeAll true second = [⟨'a', 1⟩, ⟨Utf8.replacement, 1⟩] := by decide +kernel
  have there : ((fresh.cutByAll commands).flatten ++ reader.pending).length = first.length := by
    decide +kernel
  have yields : reader.next.1 = some '€' := by decide +kernel
  obtain ⟨apart, _, each⟩ := malformed_swallows_nothing first second '€'
  have delivers : Delivers source ⟨4, 4⟩ first '€' second := each source honest stream ⟨4, 4⟩
  have drained := delivers.drained 1 (Nat.le_of_eq stalls)
  rw [before, behind] at drained
  exact ⟨afresh, honest, stream, stalls, before, behind, there, yields, drained, apart afresh,
    delivers⟩

end RuneScan
