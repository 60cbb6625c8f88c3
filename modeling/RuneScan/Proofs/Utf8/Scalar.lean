import RuneScan.Proofs.Utf8.Seam

/-!
The scalar value found at the front of a byte list is the one whose encoding stands there. Both
directions go through the bytes as numbers: `Spells` lists the well-formed sequences of one to four
bytes with the value of each. It follows that the runes of a byte list are what the encoding alone
says they are.
-/

namespace RuneScan.Utf8

/-- The bytes spell the scalar value with the number. -/
inductive Spells : List UInt8 → Nat → Prop where
  | one (lead : UInt8) : lead.toNat ≤ 0x7F → Spells [lead] lead.toNat
  | two (lead second : UInt8) : 0xC2 ≤ lead.toNat → lead.toNat ≤ 0xDF →
      0x80 ≤ second.toNat → second.toNat ≤ 0xBF →
      Spells [lead, second] ((lead.toNat - 0xC0) * 64 + (second.toNat - 0x80))
  | three (lead second third : UInt8) : 0xE0 ≤ lead.toNat → lead.toNat ≤ 0xEF →
      0x80 ≤ second.toNat → second.toNat ≤ 0xBF → 0x80 ≤ third.toNat → third.toNat ≤ 0xBF →
      (lead.toNat = 0xE0 → 0xA0 ≤ second.toNat) → (lead.toNat = 0xED → second.toNat ≤ 0x9F) →
      Spells [lead, second, third]
        (((lead.toNat - 0xE0) * 64 + (second.toNat - 0x80)) * 64 + (third.toNat - 0x80))
  | four (lead second third fourth : UInt8) : 0xF0 ≤ lead.toNat → lead.toNat ≤ 0xF4 →
      0x80 ≤ second.toNat → second.toNat ≤ 0xBF → 0x80 ≤ third.toNat → third.toNat ≤ 0xBF →
      0x80 ≤ fourth.toNat → fourth.toNat ≤ 0xBF →
      (lead.toNat = 0xF0 → 0x90 ≤ second.toNat) → (lead.toNat = 0xF4 → second.toNat ≤ 0x8F) →
      Spells [lead, second, third, fourth]
        ((((lead.toNat - 0xF0) * 64 + (second.toNat - 0x80)) * 64 + (third.toNat - 0x80)) * 64 +
          (fourth.toNat - 0x80))

private theorem toNat_ofNat_valid {value : Nat} (valid : value.isValidChar) :
    (Char.ofNat value).val.toNat = value := by
  unfold Char.ofNat
  rw [dif_pos valid]
  rfl

private theorem eq_ofNat_iff {byte : UInt8} {value : Nat} (small : value < 256) :
    byte = UInt8.ofNat value ↔ byte.toNat = value := by
  rw [← UInt8.toNat_inj, UInt8.toNat_ofNat', Nat.mod_eq_of_lt small]

theorem Spells.encode_eq {bytes : List UInt8} {value : Nat} (spells : Spells bytes value) :
    bytes = encode (Char.ofNat value) ∧ (Char.ofNat value).toNat = value := by
  have valid : value.isValidChar := by
    cases spells <;> simp only [Nat.isValidChar] <;> omega
  have same := toNat_ofNat_valid valid
  refine ⟨?_, same⟩
  -- The number of bytes is fixed by the size of the value, and each byte by its digits in base 64.
  unfold encode String.utf8EncodeChar
  simp only [same]
  cases spells with
  | one lead small =>
      rw [if_pos small]
      rw [List.cons.injEq, eq_ofNat_iff (by omega)]
      exact ⟨rfl, rfl⟩
  | two lead second =>
      rw [if_neg (by omega), if_pos (by omega)]
      simp only [List.cons.injEq, and_true]
      refine ⟨(eq_ofNat_iff (by omega)).mpr ?_, (eq_ofNat_iff (by omega)).mpr ?_⟩ <;> omega
  | three lead second third =>
      rw [if_neg (by omega), if_neg (by omega), if_pos (by omega)]
      simp only [List.cons.injEq, and_true]
      refine ⟨(eq_ofNat_iff (by omega)).mpr ?_, (eq_ofNat_iff (by omega)).mpr ?_,
        (eq_ofNat_iff (by omega)).mpr ?_⟩ <;> omega
  | four lead second third fourth =>
      rw [if_neg (by omega), if_neg (by omega), if_neg (by omega)]
      simp only [List.cons.injEq, and_true]
      refine ⟨(eq_ofNat_iff (by omega)).mpr ?_, (eq_ofNat_iff (by omega)).mpr ?_,
        (eq_ofNat_iff (by omega)).mpr ?_, (eq_ofNat_iff (by omega)).mpr ?_⟩ <;> omega

private theorem exists_byte (value : Nat) (small : value < 256) :
    ∃ byte : UInt8, UInt8.ofNat value = byte ∧ byte.toNat = value :=
  ⟨UInt8.ofNat value, rfl, (eq_ofNat_iff small).mp rfl⟩

theorem spells_encode (char : Char) : Spells (encode char) char.toNat := by
  have valid : char.val.toNat.isValidChar := char.valid
  have same : char.toNat = char.val.toNat := rfl
  unfold encode String.utf8EncodeChar
  rw [same]
  generalize char.val.toNat = value at valid
  simp only [Nat.isValidChar] at valid
  simp only
  by_cases one : value ≤ 0x7F
  · obtain ⟨lead, first, size⟩ := exists_byte value (by omega)
    rw [if_pos one, first, ← size]
    exact .one lead (by omega)
  rw [if_neg one]
  by_cases two : value ≤ 0x7FF
  · obtain ⟨lead, first, size⟩ := exists_byte (value / 64 % 32 + 0xC0) (by omega)
    obtain ⟨second, next, rest⟩ := exists_byte (value % 64 + 0x80) (by omega)
    have spelled := Spells.two lead second (by omega) (by omega) (by omega) (by omega)
    have total : (lead.toNat - 0xC0) * 64 + (second.toNat - 0x80) = value := by omega
    rw [if_pos two, first, next]
    rw [total] at spelled
    exact spelled
  rw [if_neg two]
  by_cases three : value ≤ 0xFFFF
  · obtain ⟨lead, first, size⟩ := exists_byte (value / 4096 % 16 + 0xE0) (by omega)
    obtain ⟨second, next, rest⟩ := exists_byte (value / 64 % 64 + 0x80) (by omega)
    obtain ⟨third, last, least⟩ := exists_byte (value % 64 + 0x80) (by omega)
    have spelled := Spells.three lead second third (by omega) (by omega) (by omega) (by omega)
      (by omega) (by omega) (by omega) (by omega)
    have total : ((lead.toNat - 0xE0) * 64 + (second.toNat - 0x80)) * 64 + (third.toNat - 0x80) =
        value := by omega
    rw [if_pos three, first, next, last]
    rw [total] at spelled
    exact spelled
  · rw [if_neg three]
    obtain ⟨lead, first, size⟩ := exists_byte (value / 262144 % 8 + 0xF0) (by omega)
    obtain ⟨second, next, rest⟩ := exists_byte (value / 4096 % 64 + 0x80) (by omega)
    obtain ⟨third, after, more⟩ := exists_byte (value / 64 % 64 + 0x80) (by omega)
    obtain ⟨fourth, last, least⟩ := exists_byte (value % 64 + 0x80) (by omega)
    have spelled := Spells.four lead second third fourth (by omega) (by omega) (by omega)
      (by omega) (by omega) (by omega) (by omega) (by omega) (by omega) (by omega)
    have total : (((lead.toNat - 0xF0) * 64 + (second.toNat - 0x80)) * 64 +
        (third.toNat - 0x80)) * 64 + (fourth.toNat - 0x80) = value := by omega
    rw [first, next, after, last]
    rw [total] at spelled
    exact spelled

/-! ### Lead bytes -/

theorem ByteRange.contains_iff (range : ByteRange) (byte : UInt8) :
    range.contains byte = true ↔
      range.low.toNat ≤ byte.toNat ∧ byte.toNat ≤ range.high.toNat := by
  simp only [contains, Bool.and_eq_true, decide_eq_true_eq, UInt8.le_iff_toNat_le]

private theorem ofLead?_one {lead : UInt8} (small : lead.toNat ≤ 0x7F) :
    Pattern.ofLead? lead = some ⟨lead.toNat, []⟩ := by
  unfold Pattern.ofLead?
  exact if_pos (UInt8.le_iff_toNat_le.mpr small)

private theorem ofLead?_two {lead : UInt8} (low : 0xC2 ≤ lead.toNat) (high : lead.toNat ≤ 0xDF) :
    Pattern.ofLead? lead = some ⟨lead.toNat - 0xC0, [.tail]⟩ := by
  simp only [Pattern.ofLead?, UInt8.le_iff_toNat_le, UInt8.lt_iff_toNat_lt, UInt8.reduceToNat]
  rw [if_neg (by omega), if_neg (by omega), if_pos high]

private theorem ofLead?_three {lead : UInt8} (low : 0xE0 ≤ lead.toNat) (high : lead.toNat ≤ 0xEF) :
    ∃ range, Pattern.ofLead? lead = some ⟨lead.toNat - 0xE0, [range, .tail]⟩ ∧
      ∀ second : UInt8, range.contains second = true ↔
        (0x80 ≤ second.toNat ∧ second.toNat ≤ 0xBF) ∧
          (lead.toNat = 0xE0 → 0xA0 ≤ second.toNat) ∧
          (lead.toNat = 0xED → second.toNat ≤ 0x9F) := by
  simp only [Pattern.ofLead?, UInt8.le_iff_toNat_le, UInt8.lt_iff_toNat_lt, ← UInt8.toNat_inj,
    UInt8.reduceToNat, ByteRange.contains_iff]
  rw [if_neg (by omega), if_neg (by omega), if_neg (by omega)]
  by_cases least : lead.toNat = 0xE0
  · refine ⟨⟨0xA0, 0xBF⟩, ?_, ?_⟩
    · rw [if_pos least, least]
    · intro second
      simp only [UInt8.reduceToNat]
      omega
  rw [if_neg least]
  by_cases surrogate : lead.toNat = 0xED
  · refine ⟨⟨0x80, 0x9F⟩, ?_, ?_⟩
    · rw [if_pos surrogate, surrogate]
    · intro second
      simp only [UInt8.reduceToNat]
      omega
  · refine ⟨.tail, ?_, ?_⟩
    · rw [if_neg surrogate, if_pos high]
    · intro second
      simp only [ByteRange.tail, UInt8.reduceToNat]
      omega

private theorem ofLead?_four {lead : UInt8} (low : 0xF0 ≤ lead.toNat) (high : lead.toNat ≤ 0xF4) :
    ∃ range, Pattern.ofLead? lead = some ⟨lead.toNat - 0xF0, [range, .tail, .tail]⟩ ∧
      ∀ second : UInt8, range.contains second = true ↔
        (0x80 ≤ second.toNat ∧ second.toNat ≤ 0xBF) ∧
          (lead.toNat = 0xF0 → 0x90 ≤ second.toNat) ∧
          (lead.toNat = 0xF4 → second.toNat ≤ 0x8F) := by
  simp only [Pattern.ofLead?, UInt8.le_iff_toNat_le, UInt8.lt_iff_toNat_lt, ← UInt8.toNat_inj,
    UInt8.reduceToNat, ByteRange.contains_iff]
  rw [if_neg (by omega), if_neg (by omega), if_neg (by omega), if_neg (by omega),
    if_neg (by omega), if_neg (by omega)]
  by_cases least : lead.toNat = 0xF0
  · refine ⟨⟨0x90, 0xBF⟩, ?_, ?_⟩
    · rw [if_pos least, least]
    · intro second
      simp only [UInt8.reduceToNat]
      omega
  rw [if_neg least]
  by_cases inner : lead.toNat ≤ 0xF3
  · refine ⟨.tail, ?_, ?_⟩
    · rw [if_pos inner]
    · intro second
      simp only [ByteRange.tail, UInt8.reduceToNat]
      omega
  · have greatest : lead.toNat = 0xF4 := by omega
    refine ⟨⟨0x80, 0x8F⟩, ?_, ?_⟩
    · rw [if_neg inner, if_pos greatest, greatest]
    · intro second
      simp only [UInt8.reduceToNat]
      omega

private theorem lead_cases {lead : UInt8} {pattern : Pattern}
    (announced : Pattern.ofLead? lead = some pattern) :
    lead.toNat ≤ 0x7F ∨ (0xC2 ≤ lead.toNat ∧ lead.toNat ≤ 0xDF) ∨
      (0xE0 ≤ lead.toNat ∧ lead.toNat ≤ 0xEF) ∨ (0xF0 ≤ lead.toNat ∧ lead.toNat ≤ 0xF4) := by
  simp only [Pattern.ofLead?, UInt8.le_iff_toNat_le, UInt8.lt_iff_toNat_lt, ← UInt8.toNat_inj,
    UInt8.reduceToNat] at announced
  by_cases beyond : 0xF4 < lead.toNat ∨ (0x7F < lead.toNat ∧ lead.toNat < 0xC2)
  · rcases beyond with large | ⟨low, high⟩
    · rw [if_neg (by omega), if_neg (by omega), if_neg (by omega), if_neg (by omega),
        if_neg (by omega), if_neg (by omega), if_neg (by omega), if_neg (by omega),
        if_neg (by omega)] at announced
      cases announced
    · rw [if_neg (by omega), if_pos high] at announced
      cases announced
  · omega

/-! ### Scalar values -/

private theorem agreement_nil (bytes : List UInt8) : agreement [] bytes = 0 := by
  cases bytes with
  | nil => rfl
  | cons byte more => rfl

private theorem agreement_inside {range : ByteRange} {ranges : List ByteRange} {byte : UInt8}
    (inside : range.contains byte = true) (more : List UInt8) :
    agreement (range :: ranges) (byte :: more) = agreement ranges more + 1 := by
  change (if range.contains byte then agreement ranges more + 1 else 0) = _
  rw [if_pos inside]

private theorem agreement_full {range : ByteRange} {ranges : List ByteRange} {bytes : List UInt8}
    (full : agreement (range :: ranges) bytes = ranges.length + 1) :
    ∃ byte more, bytes = byte :: more ∧ range.contains byte = true ∧
      agreement ranges more = ranges.length := by
  cases bytes with
  | nil => cases full
  | cons byte more =>
      by_cases inside : range.contains byte = true
      · rw [agreement_inside inside, Nat.add_right_cancel_iff] at full
        exact ⟨byte, more, rfl, inside, full⟩
      · change (if range.contains byte then agreement ranges more + 1 else 0) = _ at full
        rw [if_neg inside] at full
        cases full

private theorem tail_contains {byte : UInt8} (low : 0x80 ≤ byte.toNat) (high : byte.toNat ≤ 0xBF) :
    ByteRange.tail.contains byte = true :=
  (ByteRange.contains_iff _ _).mpr ⟨low, high⟩

private theorem scalar?_of_pattern {lead : UInt8} {pattern : Pattern} {rest : List UInt8}
    (announced : Pattern.ofLead? lead = some pattern)
    (full : agreement pattern.continuation rest = pattern.continuation.length) :
    scalar? (lead :: rest) =
      some ⟨Char.ofNat (pattern.value (rest.take pattern.continuation.length)), pattern.width⟩ := by
  simp only [scalar?, announced, full, if_true]

theorem Spells.scalar?_eq {bytes : List UInt8} {value : Nat} (spells : Spells bytes value)
    (more : List UInt8) :
    scalar? (bytes ++ more) = some ⟨Char.ofNat value, bytes.length⟩ := by
  cases spells with
  | one lead small => exact scalar?_of_pattern (ofLead?_one small) (agreement_nil more)
  | two lead second low high atLeast atMost =>
      have full : agreement [.tail] (second :: more) = 1 := by
        rw [agreement_inside (tail_contains atLeast atMost), agreement_nil]
      have total : Pattern.value ⟨lead.toNat - 0xC0, [.tail]⟩ [second] =
          (lead.toNat - 0xC0) * 64 + (second.toNat - 0x80) := by
        simp only [Pattern.value, List.foldl_cons, List.foldl_nil]
        omega
      rw [← total]
      exact scalar?_of_pattern (ofLead?_two low high) full
  | three lead second third low high atLeast atMost atLeast' atMost' least surrogate =>
      obtain ⟨range, announced, contains⟩ := ofLead?_three low high
      have inside := (contains second).mpr ⟨⟨atLeast, atMost⟩, least, surrogate⟩
      have full : agreement [range, .tail] (second :: third :: more) = 2 := by
        rw [agreement_inside inside, agreement_inside (tail_contains atLeast' atMost'),
          agreement_nil]
      have total : Pattern.value ⟨lead.toNat - 0xE0, [range, .tail]⟩ [second, third] =
          ((lead.toNat - 0xE0) * 64 + (second.toNat - 0x80)) * 64 + (third.toNat - 0x80) := by
        simp only [Pattern.value, List.foldl_cons, List.foldl_nil]
        omega
      rw [← total]
      exact scalar?_of_pattern announced full
  | four lead second third fourth low high atLeast atMost atLeast' atMost' atLeast'' atMost'' least
      greatest =>
      obtain ⟨range, announced, contains⟩ := ofLead?_four low high
      have inside := (contains second).mpr ⟨⟨atLeast, atMost⟩, least, greatest⟩
      have full : agreement [range, .tail, .tail] (second :: third :: fourth :: more) = 3 := by
        rw [agreement_inside inside, agreement_inside (tail_contains atLeast' atMost'),
          agreement_inside (tail_contains atLeast'' atMost''), agreement_nil]
      have total : Pattern.value ⟨lead.toNat - 0xF0, [range, .tail, .tail]⟩
          [second, third, fourth] =
          (((lead.toNat - 0xF0) * 64 + (second.toNat - 0x80)) * 64 + (third.toNat - 0x80)) * 64 +
            (fourth.toNat - 0x80) := by
        simp only [Pattern.value, List.foldl_cons, List.foldl_nil]
        omega
      rw [← total]
      exact scalar?_of_pattern announced full

theorem spells_of_scalar? {bytes : List UInt8} {rune : Rune} (found : scalar? bytes = some rune) :
    ∃ head more value, bytes = head ++ more ∧ Spells head value ∧
      rune = ⟨Char.ofNat value, head.length⟩ := by
  cases bytes with
  | nil => cases found
  | cons lead rest =>
      cases announced : Pattern.ofLead? lead with
      | none =>
          simp only [scalar?, announced] at found
          cases found
      | some pattern =>
          have full : agreement pattern.continuation rest = pattern.continuation.length := by
            simp only [scalar?, announced, Option.ite_none_right_eq_some] at found
            exact found.1
          -- It is enough to see which bytes they are.
          suffices spelled : ∃ head more value, lead :: rest = head ++ more ∧ Spells head value by
            rcases spelled with ⟨head, more, value, same, spells⟩
            rw [same, spells.scalar?_eq more] at found
            cases found
            exact ⟨head, more, value, same, spells, rfl⟩
          rcases lead_cases announced with small | ⟨low, high⟩ | ⟨low, high⟩ | ⟨low, high⟩
          · exact ⟨[lead], rest, _, rfl, .one lead small⟩
          · rw [ofLead?_two low high] at announced
            rw [← Option.some.inj announced] at full
            obtain ⟨second, more, rfl, inside, _⟩ := agreement_full full
            obtain ⟨atLeast, atMost⟩ := (ByteRange.contains_iff _ _).mp inside
            exact ⟨[lead, second], more, _, rfl, .two lead second low high atLeast atMost⟩
          · obtain ⟨range, same, contains⟩ := ofLead?_three low high
            rw [same] at announced
            rw [← Option.some.inj announced] at full
            obtain ⟨second, others, rfl, inside, full⟩ := agreement_full full
            obtain ⟨third, more, rfl, inside', _⟩ := agreement_full full
            obtain ⟨⟨atLeast, atMost⟩, least, surrogate⟩ := (contains second).mp inside
            obtain ⟨atLeast', atMost'⟩ := (ByteRange.contains_iff _ _).mp inside'
            exact ⟨[lead, second, third], more, _, rfl, .three lead second third low high atLeast
              atMost atLeast' atMost' least surrogate⟩
          · obtain ⟨range, same, contains⟩ := ofLead?_four low high
            rw [same] at announced
            rw [← Option.some.inj announced] at full
            obtain ⟨second, others, rfl, inside, full⟩ := agreement_full full
            obtain ⟨third, others, rfl, inside', full⟩ := agreement_full full
            obtain ⟨fourth, more, rfl, inside'', _⟩ := agreement_full full
            obtain ⟨⟨atLeast, atMost⟩, least, greatest⟩ := (contains second).mp inside
            obtain ⟨atLeast', atMost'⟩ := (ByteRange.contains_iff _ _).mp inside'
            obtain ⟨atLeast'', atMost''⟩ := (ByteRange.contains_iff _ _).mp inside''
            exact ⟨[lead, second, third, fourth], more, _, rfl, .four lead second third fourth low
              high atLeast atMost atLeast' atMost' atLeast'' atMost'' least greatest⟩

theorem scalar?_encode (char : Char) (more : List UInt8) :
    scalar? (encode char ++ more) = some ⟨char, (encode char).length⟩ := by
  have found := (spells_encode char).scalar?_eq more
  rw [Char.ofNat_toNat] at found
  exact found

theorem encode_of_scalar? {bytes : List UInt8} {rune : Rune} (found : scalar? bytes = some rune) :
    rune.width = (encode rune.char).length ∧ ∃ more, bytes = encode rune.char ++ more := by
  obtain ⟨head, more, value, rfl, spells, rfl⟩ := spells_of_scalar? found
  have same := spells.encode_eq.1
  exact ⟨congrArg List.length same, more, congrArg (· ++ more) same⟩

theorem scalar?_malformed {bytes : List UInt8}
    (malformed : ∀ char more, bytes ≠ encode char ++ more) : scalar? bytes = none := by
  rw [Option.eq_none_iff_forall_ne_some]
  intro rune found
  obtain ⟨_, more, same⟩ := encode_of_scalar? found
  exact malformed rune.char more same

/-! ### Truncated scalar values -/

/-- The bytes are the beginning of the encoding of a scalar value, and some of it is missing. -/
def Truncated (bytes : List UInt8) : Prop :=
  bytes ≠ [] ∧ ∃ char missing, missing ≠ [] ∧ bytes ++ missing = encode char

private theorem contains_low {lead : UInt8} {pattern : Pattern}
    (announced : Pattern.ofLead? lead = some pattern) :
    ∀ range ∈ pattern.continuation, range.contains range.low = true := by
  have inhabited : (Pattern.ofLead? lead).all (fun pattern =>
      pattern.continuation.all fun range => range.contains range.low) = true := by
    unfold Pattern.ofLead?
    repeat (first | rfl | split)
  rw [announced] at inhabited
  exact List.all_eq_true.mp inhabited

/-- The least byte of each range that is still open completes a match. -/
private theorem agreement_complete {ranges : List ByteRange} {bytes : List UInt8}
    (matched : agreement ranges bytes = bytes.length) (within : bytes.length ≤ ranges.length)
    (inhabited : ∀ range ∈ ranges, range.contains range.low = true) :
    agreement ranges (bytes ++ (ranges.drop bytes.length).map ByteRange.low) = ranges.length := by
  induction ranges generalizing bytes with
  | nil => exact agreement_nil _
  | cons range ranges ih =>
      have others : ∀ range ∈ ranges, range.contains range.low = true :=
        fun range member => inhabited range (List.mem_cons_of_mem _ member)
      cases bytes with
      | nil =>
          have inside := inhabited range List.mem_cons_self
          have nothing : agreement ranges [] = 0 := by
            cases ranges <;> rfl
          have rest := ih nothing (Nat.zero_le _) others
          exact (agreement_inside inside _).trans (congrArg (· + 1) rest)
      | cons byte bytes =>
          by_cases inside : range.contains byte = true
          · rw [agreement_inside inside] at matched
            have rest := ih (Nat.succ.inj matched) (Nat.le_of_succ_le_succ within) others
            exact (agreement_inside inside _).trans (congrArg (· + 1) rest)
          · change (if range.contains byte then _ else 0) = _ at matched
            rw [if_neg inside] at matched
            cases matched

theorem truncated_of_isTruncated {bytes : List UInt8} (truncated : isTruncated bytes = true) :
    Truncated bytes := by
  cases bytes with
  | nil => cases truncated
  | cons lead rest =>
      cases announced : Pattern.ofLead? lead with
      | none =>
          simp only [isTruncated, announced] at truncated
          cases truncated
      | some pattern =>
          simp only [isTruncated, announced, Bool.and_eq_true, decide_eq_true_eq] at truncated
          obtain ⟨matched, short⟩ := truncated
          have full := agreement_complete matched (Nat.le_of_lt short) (contains_low announced)
          have found := scalar?_of_pattern announced full
          obtain ⟨width, others, same⟩ := encode_of_scalar? found
          -- The pattern is matched by these bytes and no more, so nothing stands behind the value.
          have nothing : others = [] := by
            have lengths := congrArg List.length same
            simp only [Pattern.width, List.length_cons, List.length_append, List.length_map,
              List.length_drop] at width lengths
            exact List.eq_nil_of_length_eq_zero (by omega)
          rw [nothing, List.append_nil] at same
          refine ⟨List.cons_ne_nil _ _, _, _, ?_, same⟩
          intro empty
          have left := congrArg List.length empty
          rw [List.length_map, List.length_drop, List.length_nil] at left
          omega

theorem isTruncated_of_truncated {bytes : List UInt8} (truncated : Truncated bytes) :
    isTruncated bytes = true := by
  obtain ⟨nonempty, char, missing, some, same⟩ := truncated
  have whole := scalar?_encode char []
  rw [List.append_nil, ← same] at whole
  rw [← Bool.not_eq_false]
  intro settled
  cases found : scalar? bytes with
  | none =>
      rw [scalar?_append_of_settled nonempty settled found] at whole
      cases whole
  | some rune =>
      rw [scalar?_append found, Option.some.injEq] at whole
      obtain ⟨_, more, front⟩ := encode_of_scalar? found
      have lengths := congrArg List.length front
      have longer := List.length_pos_iff.mpr some
      rw [whole, ← same, List.length_append, List.length_append] at lengths
      omega

theorem isTruncated_iff (bytes : List UInt8) : isTruncated bytes = true ↔ Truncated bytes :=
  ⟨truncated_of_isTruncated, isTruncated_of_truncated⟩

theorem not_truncated_of_settled {bytes : List UInt8} (settled : isTruncated bytes = false) :
    ¬Truncated bytes := by
  rw [← isTruncated_iff, settled]
  exact Bool.false_ne_true

/-! ### Decoding by the encoding alone -/

/-- The runes of a byte list: where the encoding of a scalar value stands, that value, and otherwise
one replacement for one byte. -/
inductive Decodes : List UInt8 → List Rune → Prop where
  | nil : Decodes [] []
  | scalar (char : Char) (more : List UInt8) (others : List Rune) : Decodes more others →
      Decodes (encode char ++ more) (⟨char, (encode char).length⟩ :: others)
  | malformed (byte : UInt8) (more : List UInt8) (others : List Rune) :
      (∀ char rest, byte :: more ≠ encode char ++ rest) → Decodes more others →
      Decodes (byte :: more) (⟨replacement, 1⟩ :: others)

theorem front_encode (char : Char) (more : List UInt8) :
    front (encode char ++ more) = ⟨char, (encode char).length⟩ := by
  rw [front, scalar?_encode, Option.getD_some]

theorem front_malformed {bytes : List UInt8}
    (malformed : ∀ char rest, bytes ≠ encode char ++ rest) : front bytes = ⟨replacement, 1⟩ := by
  rw [front, scalar?_malformed malformed, Option.getD_none]

theorem decodes_runes (bytes : List UInt8) : Decodes bytes (runes bytes) := by
  induction bytes using runes_induction with
  | nil =>
      rw [runes_nil]
      exact .nil
  | step bytes nonempty ih =>
      rw [runes_of_nonempty nonempty]
      by_cases encoded : ∃ char rest, bytes = encode char ++ rest
      · rcases encoded with ⟨char, more, rfl⟩
        rw [front_encode, List.drop_left] at ih
        rw [front_encode, List.drop_left]
        exact .scalar char more _ ih
      · have malformed : ∀ char rest, bytes ≠ encode char ++ rest := by
          intro char rest same
          exact encoded ⟨char, rest, same⟩
        rw [front_malformed malformed] at ih ⊢
        cases bytes with
        | nil => contradiction
        | cons byte more => exact .malformed byte more _ malformed ih

theorem decodes_of_runes {bytes : List UInt8} {decoded : List Rune} (same : runes bytes = decoded) :
    Decodes bytes decoded := by
  rw [← same]
  exact decodes_runes bytes

theorem Decodes.eq_runes {bytes : List UInt8} {decoded : List Rune}
    (decodes : Decodes bytes decoded) : decoded = runes bytes := by
  induction decodes with
  | nil => rw [runes_nil]
  | scalar char more others _ ih =>
      have nonempty : encode char ++ more ≠ [] := by
        intro empty
        have found := scalar?_encode char more
        rw [empty] at found
        cases found
      rw [runes_of_nonempty nonempty, front_encode, List.drop_left, ih]
  | malformed byte more others malformed _ ih =>
      rw [runes_of_nonempty (List.cons_ne_nil byte more), front_malformed malformed, ih]
      rfl

/-- The first rune is the one at the front. -/
theorem Decodes.front_eq {bytes : List UInt8} {rune : Rune} {others : List Rune}
    (decodes : Decodes bytes (rune :: others)) : bytes ≠ [] ∧ front bytes = rune := by
  have same := decodes.eq_runes
  have nonempty : bytes ≠ [] := by
    rintro rfl
    rw [runes_nil] at same
    cases same
  rw [runes_of_nonempty nonempty] at same
  exact ⟨nonempty, (List.cons.inj same).1.symm⟩

theorem Decodes.eq_encodeAll {bytes : List UInt8} {decoded : List Rune}
    (decodes : Decodes bytes decoded) (genuine : replacement ∉ decoded.map Rune.char) :
    bytes = encodeAll (decoded.map Rune.char) := by
  induction decodes with
  | nil => rfl
  | scalar char more others _ ih =>
      rw [List.map_cons, encodeAll, List.flatMap_cons, ← encodeAll]
      exact congrArg (encode char ++ ·) (ih fun member => genuine (List.mem_cons_of_mem _ member))
  | malformed byte more others _ _ _ => exact absurd List.mem_cons_self genuine

theorem chars_encodeAll (chars : List Char) :
    (runes (encodeAll chars)).map Rune.char = chars := by
  suffices encoded : ∃ decoded, Decodes (encodeAll chars) decoded ∧
      decoded.map Rune.char = chars by
    obtain ⟨decoded, decodes, same⟩ := encoded
    rw [← decodes.eq_runes]
    exact same
  induction chars with
  | nil => exact ⟨[], .nil, rfl⟩
  | cons char others ih =>
      obtain ⟨decoded, decodes, same⟩ := ih
      exact ⟨_, .scalar char _ decoded decodes, congrArg (char :: ·) same⟩

/-- Where no rune is the replacement, a text is known by its bytes. -/
theorem eq_encodeAll_iff {bytes : List UInt8} {chars : List Char} (genuine : replacement ∉ chars) :
    bytes = encodeAll chars ↔ (runes bytes).map Rune.char = chars := by
  constructor
  · rintro rfl
    exact chars_encodeAll chars
  · rintro rfl
    exact (decodes_runes bytes).eq_encodeAll genuine

end RuneScan.Utf8
