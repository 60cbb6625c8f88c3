import RuneScan.Utf8.Segment
import RuneScan.Proofs.Utf8.Faults

/-!
The decoder is that of UTF-8. It takes the scalar value whose encoding stands at the front, waits
where the bytes are the beginning of an encoding and more may come, and else replaces one byte. All
it needs for this is a scan of the front that finds the scalar value there, or else tells how far
the bytes go on like the beginning of one.
-/

namespace RuneScan.Utf8

/-! ### Encoded texts -/

theorem decodeAll_encodeAll (chars : List Char) (ended : Bool) :
    decodeAll ended (encodeAll chars) = chars.map fun char => ⟨char, (encode char).length⟩ := by
  induction chars with
  | nil => exact decodeAll_nil ended
  | cons char others ih =>
      have first := decodeAll_of_rune (decode_encode char (encodeAll others) ended)
      rw [List.drop_left, ih] at first
      exact first

/-! ### The decoder over a scan of the front -/

/-- Looks for a scalar value at the front, and gives it with a number of bytes. -/
abbrev Scan := List UInt8 → Option Char × Nat

/-- The longest front that is the beginning of an encoding has the length; if the first byte begins
none, that byte alone counts. -/
structure LongestStart (bytes : List UInt8) (length : Nat) : Prop where
  positive : 0 < length
  length_le : length ≤ bytes.length
  begins : 1 < length → Truncated (bytes.take length)
  longest : ∀ longer ≤ bytes.length, Truncated (bytes.take longer) → longer ≤ length

/-- The scan finds the scalar value whose encoding stands at the front, with the length of the
encoding; where none stands, it tells how far the bytes go on like one. -/
structure Scan.Faithful (scan : Scan) : Prop where
  finds : ∀ char more, scan (encode char ++ more) = (some char, (encode char).length)
  misses : ∀ bytes, bytes ≠ [] → (∀ char more, bytes ≠ encode char ++ more) →
    (scan bytes).1 = none ∧ LongestStart bytes (scan bytes).2

/-- The number of bytes that the lead byte of an encoding announces, itself included. -/
def sequenceLength (lead : UInt8) : Nat :=
  if 0xC2 ≤ lead && lead ≤ 0xDF then 2
  else if 0xE0 ≤ lead && lead ≤ 0xEF then 3
  else if 0xF0 ≤ lead && lead ≤ 0xF4 then 4
  else 1

/-- Fewer bytes than announced, over all of which the scan went without finding a scalar value. -/
def Scan.isTruncated (scan : Scan) : List UInt8 → Bool
  | [] => false
  | lead :: rest =>
      if sequenceLength lead ≤ (lead :: rest).length then false
      else (scan (lead :: rest)).1.isNone && (scan (lead :: rest)).2 == (lead :: rest).length

def Scan.decode (scan : Scan) (bytes : List UInt8) (ended : Bool) : Decoded :=
  if bytes.isEmpty then .empty
  else if !ended && scan.isTruncated bytes then .incomplete
  else
    match scan bytes with
    | (some char, width) => .rune ⟨char, width⟩
    | (none, _) => .rune ⟨replacement, 1⟩

theorem sequenceLength_of_encode {char : Char} {lead : UInt8} {others : List UInt8}
    (same : encode char = lead :: others) : sequenceLength lead = (encode char).length := by
  have spelled := spells_encode char
  generalize encode char = bytes at same spelled
  generalize char.toNat = value at spelled
  simp only [sequenceLength, Bool.and_eq_true, decide_eq_true_eq, UInt8.le_iff_toNat_le,
    UInt8.reduceToNat]
  cases spelled with
  | one lead small =>
      cases same
      rw [if_neg (by omega), if_neg (by omega), if_neg (by omega)]
      rfl
  | two lead second low high =>
      cases same
      rw [if_pos ⟨low, high⟩]
      rfl
  | three lead second third low high =>
      cases same
      rw [if_neg (by omega), if_pos ⟨low, high⟩]
      rfl
  | four lead second third fourth low high =>
      cases same
      rw [if_neg (by omega), if_neg (by omega), if_pos ⟨low, high⟩]
      rfl

/-- A lead byte that announces others begins an encoding. -/
theorem truncated_of_sequenceLength {lead : UInt8} (announces : 1 < sequenceLength lead) :
    Truncated [lead] := by
  suffices spelled : ∃ others value, others ≠ [] ∧ Spells (lead :: others) value by
    obtain ⟨others, value, some, spells⟩ := spelled
    exact ⟨List.cons_ne_nil lead [], Char.ofNat value, others, some, spells.encode_eq.1⟩
  simp only [sequenceLength, Bool.and_eq_true, decide_eq_true_eq, UInt8.le_iff_toNat_le,
    UInt8.reduceToNat] at announces
  by_cases two : 0xC2 ≤ lead.toNat ∧ lead.toNat ≤ 0xDF
  · exact ⟨[0x80], _, List.cons_ne_nil _ _,
      .two lead 0x80 two.1 two.2 (by decide) (by decide)⟩
  rw [if_neg two] at announces
  by_cases three : 0xE0 ≤ lead.toNat ∧ lead.toNat ≤ 0xEF
  · by_cases least : lead.toNat = 0xE0
    · exact ⟨[0xA0, 0x80], _, List.cons_ne_nil _ _, .three lead 0xA0 0x80 three.1 three.2
        (by decide) (by decide) (by decide) (by decide) (fun _ => by decide) (by omega)⟩
    · exact ⟨[0x80, 0x80], _, List.cons_ne_nil _ _, .three lead 0x80 0x80 three.1 three.2
        (by decide) (by decide) (by decide) (by decide) (by omega) (fun _ => by decide)⟩
  rw [if_neg three] at announces
  by_cases four : 0xF0 ≤ lead.toNat ∧ lead.toNat ≤ 0xF4
  · by_cases least : lead.toNat = 0xF0
    · exact ⟨[0x90, 0x80, 0x80], _, List.cons_ne_nil _ _, .four lead 0x90 0x80 0x80 four.1 four.2
        (by decide) (by decide) (by decide) (by decide) (by decide) (by decide) (fun _ => by decide)
        (by omega)⟩
    · exact ⟨[0x80, 0x80, 0x80], _, List.cons_ne_nil _ _, .four lead 0x80 0x80 0x80 four.1 four.2
        (by decide) (by decide) (by decide) (by decide) (by decide) (by decide) (by omega)
        (fun _ => by decide)⟩
  rw [if_neg four] at announces
  exact absurd announces (Nat.lt_irrefl 1)

/-- The beginning of an encoding does not start with another one. -/
theorem Truncated.malformed {bytes : List UInt8} (truncated : Truncated bytes) (char : Char)
    (more : List UInt8) : bytes ≠ encode char ++ more := by
  rintro rfl
  have whole := isTruncated_of_truncated truncated
  rw [not_truncated_of_encode] at whole
  cases whole

theorem Truncated.length_lt {lead : UInt8} {rest : List UInt8}
    (truncated : Truncated (lead :: rest)) : (lead :: rest).length < sequenceLength lead := by
  obtain ⟨_, char, missing, some, same⟩ := truncated
  rw [sequenceLength_of_encode same.symm, ← same, List.length_append]
  exact Nat.lt_add_of_pos_right (List.length_pos_iff.mpr some)

theorem Scan.Faithful.isTruncated_iff {scan : Scan} (faithful : scan.Faithful)
    (bytes : List UInt8) : scan.isTruncated bytes = true ↔ Truncated bytes := by
  cases bytes with
  | nil => exact iff_of_false Bool.false_ne_true fun truncated => truncated.1 rfl
  | cons lead rest =>
      have nonempty := List.cons_ne_nil lead rest
      rw [Scan.isTruncated]
      constructor
      · intro accepted
        simp only [Bool.if_false_left, Bool.and_eq_true, Option.isNone_iff_eq_none, beq_iff_eq,
          Bool.not_eq_true', decide_eq_false_iff_not, Nat.not_le] at accepted
        obtain ⟨short, missed, length⟩ := accepted
        have malformed : ∀ char more, lead :: rest ≠ encode char ++ more := by
          intro char more same
          rw [same, faithful.finds] at missed
          cases missed
        have start := (faithful.misses _ nonempty malformed).2
        rw [length] at start
        by_cases alone : 1 < (lead :: rest).length
        · have begins := start.begins alone
          rw [List.take_length] at begins
          exact begins
        · have nothing : rest = [] := by
            apply List.eq_nil_of_length_eq_zero
            rw [List.length_cons] at alone
            omega
          rw [nothing] at short ⊢
          exact truncated_of_sequenceLength short
      · intro truncated
        obtain ⟨missed, start⟩ := faithful.misses _ nonempty truncated.malformed
        have whole := start.longest _ (Nat.le_refl _) (by rw [List.take_length]; exact truncated)
        have length := Nat.le_antisymm start.length_le whole
        rw [if_neg (Nat.not_le.mpr truncated.length_lt), missed, length, beq_self_eq_true]
        rfl

theorem Scan.Faithful.isTruncated_eq {scan : Scan} (faithful : scan.Faithful)
    (bytes : List UInt8) : scan.isTruncated bytes = Utf8.isTruncated bytes := by
  rw [Bool.eq_iff_iff, faithful.isTruncated_iff, Utf8.isTruncated_iff]

theorem Scan.Faithful.decode_eq {scan : Scan} (faithful : scan.Faithful) (bytes : List UInt8)
    (ended : Bool) : scan.decode bytes ended = Utf8.decode bytes ended := by
  unfold Scan.decode Utf8.decode
  rw [faithful.isTruncated_eq]
  by_cases empty : bytes = []
  · rw [empty]
    rfl
  · have front_eq : (match scan bytes with
        | (some char, width) => Decoded.rune ⟨char, width⟩
        | (none, _) => .rune ⟨replacement, 1⟩) = .rune (front bytes) := by
      by_cases encoded : ∃ char more, bytes = encode char ++ more
      · obtain ⟨char, more, rfl⟩ := encoded
        rw [faithful.finds, front_encode]
      · have malformed : ∀ char more, bytes ≠ encode char ++ more :=
          fun char more same => encoded ⟨char, more, same⟩
        have missed := (faithful.misses bytes empty malformed).1
        rw [front_malformed malformed]
        generalize scan bytes = result at missed ⊢
        rcases result with ⟨found, length⟩
        cases missed
        rfl
    rw [front_eq]

/-! ### A scan by the patterns -/

def scanFront : Scan := fun bytes =>
  match scalar? bytes with
  | some rune => (some rune.char, rune.width)
  | none => (none, if bytes.isEmpty then 0 else stretch bytes)

private theorem agreement_take_eq (ranges : List ByteRange) (bytes : List UInt8) (count : Nat) :
    agreement ranges (bytes.take count) = min count (agreement ranges bytes) := by
  induction ranges generalizing bytes count with
  | nil => cases bytes <;> cases count <;> simp [agreement]
  | cons range ranges ih =>
      cases bytes with
      | nil => simp [agreement]
      | cons byte bytes =>
          cases count with
          | zero => simp [agreement]
          | succ count =>
              rw [List.take_succ_cons]
              by_cases inside : range.contains byte = true
              · simp only [agreement, inside, if_true, ih]
                omega
              · simp [agreement, inside]

theorem longestStart_stretch {bytes : List UInt8} (nonempty : bytes ≠ [])
    (missing : scalar? bytes = none) : LongestStart bytes (stretch bytes) := by
  obtain ⟨lead, rest, rfl⟩ := List.exists_cons_of_ne_nil nonempty
  cases announced : Pattern.ofLead? lead with
  | none =>
      have alone : stretch (lead :: rest) = 1 := by
        simp only [stretch, matched, announced]
        rfl
      rw [alone]
      refine ⟨Nat.one_pos, Nat.succ_pos _, fun more => absurd more (Nat.lt_irrefl 1), ?_⟩
      intro longer _ truncated
      cases longer with
      | zero => exact Nat.zero_le 1
      | succ count =>
          have begun := isTruncated_of_truncated truncated
          simp only [List.take_succ_cons, isTruncated, announced] at begun
          cases begun
  | some pattern =>
      have follows : stretch (lead :: rest) = agreement pattern.continuation rest + 1 := by
        simp only [stretch, matched, announced]
        omega
      have within := agreement_le_bytes pattern.continuation rest
      have partly : agreement pattern.continuation rest < pattern.continuation.length := by
        apply Nat.lt_of_le_of_ne (agreement_le_ranges _ _)
        simpa only [scalar?, announced, ite_eq_right_iff, reduceCtorEq, imp_false] using missing
      rw [follows]
      refine ⟨Nat.succ_pos _, Nat.succ_le_succ within, ?_, ?_⟩
      · intro _
        apply truncated_of_isTruncated
        simp only [List.take_succ_cons, isTruncated, announced, agreement_take_eq, Nat.min_self,
          List.length_take, Nat.min_eq_left within, decide_true, Bool.true_and, partly]
      · intro longer few truncated
        cases longer with
        | zero => exact Nat.zero_le _
        | succ count =>
            have begun := isTruncated_of_truncated truncated
            simp only [List.take_succ_cons, isTruncated, announced, agreement_take_eq,
              List.length_take, Bool.and_eq_true, decide_eq_true_eq] at begun
            rw [List.length_cons] at few
            omega

theorem scanFront_faithful : scanFront.Faithful := by
  constructor
  · intro char more
    simp only [scanFront, scalar?_encode]
  · intro bytes nonempty malformed
    have missing := scalar?_malformed malformed
    have occupied : bytes.isEmpty = false := by simpa using nonempty
    simp only [scanFront, missing, occupied, Bool.false_eq_true, if_false]
    exact ⟨trivial, longestStart_stretch nonempty missing⟩

/-! ### The law -/

structure DecodesUtf8 : Prop where
  truncated_iff : ∀ bytes, isTruncated bytes = true ↔ Truncated bytes
  takes : ∀ char more ended,
    decode (encode char ++ more) ended = .rune ⟨char, (encode char).length⟩
  waits : ∀ bytes, Truncated bytes → decode bytes false = .incomplete
  replaces : ∀ bytes ended, bytes ≠ [] → (∀ char more, bytes ≠ encode char ++ more) →
    (ended = true ∨ ¬ Truncated bytes) → decode bytes ended = .rune ⟨replacement, 1⟩
  /-- Each byte of a faulty layout is replaced, and what follows is decoded as if it stood alone. -/
  replacesEach : ∀ ended more bytes, Faulty ended more bytes →
    decodeAll ended (bytes ++ more) =
      List.replicate bytes.length ⟨replacement, 1⟩ ++ decodeAll ended more
  /-- A layout is faultless in as few bytes as hold the value. -/
  spreads : ∀ char, encode char = spread (encode char).length char.toNat ∧
    char.toNat < capacity (encode char).length ∧
    ((encode char).length = 1 ∨ capacity ((encode char).length - 1) ≤ char.toNat)
  keepsReplacement : ∀ more ended,
    decode (0xEF :: 0xBF :: 0xBD :: more) ended = .rune ⟨replacement, 3⟩
  restores : ∀ chars ended,
    decodeAll ended (encodeAll chars) = chars.map fun char => ⟨char, (encode char).length⟩

/-- The decoder is that of UTF-8, and goes by no more than a faithful scan of the front tells. -/
theorem decoder_is_utf8 {scan : Scan} (faithful : scan.Faithful) :
    (∀ bytes, scan.isTruncated bytes = isTruncated bytes) ∧
    (∀ bytes ended, scan.decode bytes ended = decode bytes ended) ∧ DecodesUtf8 := by
  refine ⟨faithful.isTruncated_eq, faithful.decode_eq, ?_⟩
  constructor
  · exact isTruncated_iff
  · exact decode_encode
  · intro bytes truncated
    exact decode_of_truncated truncated
  · intro bytes ended nonempty malformed settled
    exact decode_of_malformed nonempty malformed settled
  · intro ended more bytes faulty
    exact faulty.decodeAll_append
  · exact encode_eq_spread
  · exact decode_encode replacement
  · exact decodeAll_encodeAll

/-- The scan by the patterns is faithful. Over it a surrogate is replaced byte by byte, a genuine
replacement rune is kept, and the beginning of a rune of four bytes is waited for. -/
theorem decoder_is_utf8_over_patterns :
    scanFront.Faithful ∧ scanFront [0xF0, 0x9F, 0x98] = (none, 3) ∧
      scanFront.decode [0xF0, 0x9F, 0x98] false = .incomplete ∧
      scanFront.decode [0xF0, 0x9F, 0x98] true = .rune ⟨replacement, 1⟩ ∧
      decodeAll false [0xED, 0xA0, 0x80, 0xEF, 0xBF, 0xBD, 0x61] =
        [⟨replacement, 1⟩, ⟨replacement, 1⟩, ⟨replacement, 1⟩, ⟨replacement, 3⟩, ⟨'a', 1⟩] ∧
      (∀ bytes, scanFront.isTruncated bytes = isTruncated bytes) ∧
      (∀ bytes ended, scanFront.decode bytes ended = decode bytes ended) ∧ DecodesUtf8 := by
  have scanned : scanFront [0xF0, 0x9F, 0x98] = (none, 3) := by decide +kernel
  have waits : scanFront.decode [0xF0, 0x9F, 0x98] false = .incomplete := by decide +kernel
  have ended : scanFront.decode [0xF0, 0x9F, 0x98] true = .rune ⟨replacement, 1⟩ := by
    decide +kernel
  have law := decoder_is_utf8 scanFront_faithful
  have surrogate := law.2.2.replacesEach false [0xEF, 0xBF, 0xBD, 0x61] _
    (.surrogate 0xD800 (by decide) (by decide))
  have genuine := law.2.2.restores [replacement, 'a'] false
  exact ⟨scanFront_faithful, scanned, waits, ended,
    surrogate.trans (congrArg (List.replicate 3 _ ++ ·) genuine), law⟩

end RuneScan.Utf8
