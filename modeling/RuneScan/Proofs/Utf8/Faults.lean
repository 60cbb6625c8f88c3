import RuneScan.Proofs.Utf8.Scalar

/-!
What malformed bytes are decoded to. A byte behind the lead byte of an encoding cannot begin one, so
the bytes that follow a faulty lead byte are replaced one at a time as well. This holds of values
laid out in more bytes than they need, of surrogates and values that are too large, of stray bytes,
and of encodings that break off.
-/

namespace RuneScan.Utf8

/-! ### Decoding again and again -/

/-- The runes that are decoded one after the other, until nothing is left or only the beginning of a
rune that may yet be completed. -/
def decodeAll (ended : Bool) (bytes : List UInt8) : List Rune :=
  match _decoded : decode bytes ended with
  | .rune rune => rune :: decodeAll ended (bytes.drop rune.width)
  | .empty => []
  | .incomplete => []
termination_by bytes.length
decreasing_by
  have width := decode_rune_width _decoded
  rw [List.length_drop]
  omega

theorem decodeAll_of_rune {ended : Bool} {bytes : List UInt8} {rune : Rune}
    (decoded : decode bytes ended = .rune rune) :
    decodeAll ended bytes = rune :: decodeAll ended (bytes.drop rune.width) := by
  rw [decodeAll]
  split
  · rename_i other same
    cases decoded.symm.trans same
    rfl
  · rename_i empty
    cases decoded.symm.trans empty
  · rename_i incomplete
    cases decoded.symm.trans incomplete

@[simp] theorem decodeAll_nil (ended : Bool) : decodeAll ended [] = [] := by
  rw [decodeAll]
  rfl

theorem decode_of_settled {ended : Bool} {bytes : List UInt8} (nonempty : bytes ≠ [])
    (settled : ended = true ∨ isTruncated bytes = false) :
    decode bytes ended = .rune (front bytes) := by
  have decoding := decode_decoding bytes ended
  generalize decode bytes ended = decoded at decoding ⊢
  cases decoding with
  | empty empty => contradiction
  | incomplete unfinished truncated =>
      rw [unfinished, truncated] at settled
      simp at settled
  | rune _ _ => rfl

/-- Once the input has ended these are all its runes. -/
theorem decodeAll_ended (bytes : List UInt8) : decodeAll true bytes = runes bytes := by
  induction bytes using runes_induction with
  | nil => rw [decodeAll_nil, runes_nil]
  | step bytes nonempty ih =>
      rw [decodeAll_of_rune (decode_of_settled nonempty (.inl rfl)), ih,
        runes_of_nonempty nonempty]

/-! ### The bytes of an encoding -/

/-- What the front of a byte list looks like where an encoding stands. -/
theorem lead_of_encode {char : Char} {bytes rest : List UInt8}
    (same : bytes = encode char ++ rest) :
    ∃ lead others, bytes = lead :: others ∧
      (lead.toNat ≤ 0x7F ∨ (0xC2 ≤ lead.toNat ∧ lead.toNat ≤ 0xF4 ∧
        ∃ second more, others = second :: more ∧ 0x80 ≤ second.toNat ∧ second.toNat ≤ 0xBF ∧
          (lead.toNat = 0xE0 → 0xA0 ≤ second.toNat) ∧
          (lead.toNat = 0xED → second.toNat ≤ 0x9F) ∧
          (lead.toNat = 0xF0 → 0x90 ≤ second.toNat) ∧
          (lead.toNat = 0xF4 → second.toNat ≤ 0x8F))) := by
  have spelled := spells_encode char
  generalize encode char = bytes at same spelled
  generalize char.toNat = value at spelled
  subst same
  cases spelled with
  | one lead small => exact ⟨lead, _, rfl, .inl small⟩
  | two lead second low high atLeast atMost =>
      exact ⟨lead, _, rfl, .inr ⟨low, by omega, second, _, rfl, atLeast, atMost, by omega, by omega,
        by omega, by omega⟩⟩
  | three lead second third low high atLeast atMost _ _ least surrogate =>
      exact ⟨lead, _, rfl, .inr ⟨by omega, by omega, second, _, rfl, atLeast, atMost, least,
        surrogate, by omega, by omega⟩⟩
  | four lead second third fourth low high atLeast atMost _ _ _ _ least greatest =>
      exact ⟨lead, _, rfl, .inr ⟨by omega, high, second, _, rfl, atLeast, atMost, by omega,
        by omega, least, greatest⟩⟩

theorem encode_ne_nil (char : Char) : encode char ≠ [] := by
  intro empty
  have found := scalar?_encode char []
  rw [empty] at found
  cases found

def continues (byte : UInt8) : Bool :=
  ByteRange.tail.contains byte

theorem continues_iff (byte : UInt8) :
    continues byte = true ↔ 0x80 ≤ byte.toNat ∧ byte.toNat ≤ 0xBF :=
  ByteRange.contains_iff _ _

theorem continues_of_mem_tail {char : Char} {byte : UInt8} (member : byte ∈ (encode char).tail) :
    continues byte = true := by
  have spelled := spells_encode char
  generalize encode char = bytes at member spelled
  generalize char.toNat = value at spelled
  rw [continues_iff]
  cases spelled with
  | one lead _ => cases member
  | two lead second _ _ atLeast atMost =>
      simp only [List.tail_cons, List.mem_singleton] at member
      subst member
      exact ⟨atLeast, atMost⟩
  | three lead second third _ _ atLeast atMost atLeast' atMost' _ _ =>
      simp only [List.tail_cons, List.mem_cons, List.not_mem_nil, or_false] at member
      rcases member with rfl | rfl
      · exact ⟨atLeast, atMost⟩
      · exact ⟨atLeast', atMost'⟩
  | four lead second third fourth _ _ atLeast atMost atLeast' atMost' atLeast'' atMost'' _ _ =>
      simp only [List.tail_cons, List.mem_cons, List.not_mem_nil, or_false] at member
      rcases member with rfl | rfl | rfl
      · exact ⟨atLeast, atMost⟩
      · exact ⟨atLeast', atMost'⟩
      · exact ⟨atLeast'', atMost''⟩

theorem continues_of_truncated {bytes : List UInt8} (truncated : Truncated bytes) {byte : UInt8}
    (member : byte ∈ bytes.tail) : continues byte = true := by
  obtain ⟨nonempty, char, missing, _, same⟩ := truncated
  refine continues_of_mem_tail (?_ : byte ∈ (encode char).tail)
  rw [← same, List.tail_append_of_ne_nil nonempty]
  exact List.mem_append_left _ member

/-! ### Replacing byte by byte -/

theorem not_truncated_of_encode (char : Char) (more : List UInt8) :
    isTruncated (encode char ++ more) = false := by
  have found := scalar?_encode char []
  rw [List.append_nil] at found
  apply isTruncated_append (encode_ne_nil char)
  rw [← Bool.not_eq_true]
  intro truncated
  obtain ⟨_, other, missing, some, same⟩ := truncated_of_isTruncated truncated
  have longer := scalar?_append found missing
  rw [same, ← List.append_nil (encode other), scalar?_encode, Option.some.injEq, Rune.mk.injEq]
    at longer
  have lengths := congrArg List.length same
  have positive := List.length_pos_iff.mpr some
  rw [List.length_append] at lengths
  omega

theorem decode_encode (char : Char) (more : List UInt8) (ended : Bool) :
    decode (encode char ++ more) ended = .rune ⟨char, (encode char).length⟩ := by
  rw [decode_of_settled (List.append_ne_nil_of_left_ne_nil (encode_ne_nil char) more)
    (.inr (not_truncated_of_encode char more)), front_encode]

theorem decode_of_truncated {bytes : List UInt8} (truncated : Truncated bytes) :
    decode bytes false = .incomplete := by
  have decoding := decode_decoding bytes false
  generalize decode bytes false = decoded at decoding ⊢
  cases decoding with
  | empty empty => exact absurd empty truncated.1
  | incomplete _ _ => rfl
  | rune _ settled =>
      rw [isTruncated_of_truncated truncated] at settled
      simp at settled

theorem decode_of_malformed {bytes : List UInt8} {ended : Bool} (nonempty : bytes ≠ [])
    (malformed : ∀ char more, bytes ≠ encode char ++ more)
    (settled : ended = true ∨ ¬ Truncated bytes) :
    decode bytes ended = .rune ⟨replacement, 1⟩ := by
  rw [← isTruncated_iff, Bool.not_eq_true] at settled
  rw [decode_of_settled nonempty settled, front_malformed malformed]

/-- No encoding goes on from these bytes or ends in them, whatever follows. -/
def Unspelled (bytes : List UInt8) : Prop :=
  ∀ char more rest, bytes ++ more ≠ encode char ++ rest

theorem Unspelled.decode_append {bytes : List UInt8} (unspelled : Unspelled bytes)
    (nonempty : bytes ≠ []) (more : List UInt8) (ended : Bool) :
    decode (bytes ++ more) ended = .rune ⟨replacement, 1⟩ := by
  apply decode_of_malformed (List.append_ne_nil_of_left_ne_nil nonempty more)
  · intro char rest
    exact unspelled char more rest
  · right
    rintro ⟨_, char, missing, _, same⟩
    rw [List.append_assoc] at same
    apply unspelled char (more ++ missing) []
    rw [same, List.append_nil]

theorem unspelled_of_continues {byte : UInt8} (inside : continues byte = true) :
    Unspelled [byte] := by
  intro char more rest same
  obtain ⟨low, high⟩ := (continues_iff byte).mp inside
  obtain ⟨lead, others, front, shape⟩ := lead_of_encode same
  cases front
  omega

theorem decodeAll_of_continues {bytes : List UInt8}
    (inside : ∀ byte ∈ bytes, continues byte = true) (more : List UInt8) (ended : Bool) :
    decodeAll ended (bytes ++ more) =
      List.replicate bytes.length ⟨replacement, 1⟩ ++ decodeAll ended more := by
  induction bytes with
  | nil => rfl
  | cons byte bytes ih =>
      have first := (unspelled_of_continues (inside byte List.mem_cons_self)).decode_append
        (List.cons_ne_nil byte []) (bytes ++ more) ended
      have others := ih fun other member => inside other (List.mem_cons_of_mem byte member)
      exact (decodeAll_of_rune first).trans (congrArg (_ :: ·) others)

/-- A faulty lead byte and all bytes behind it that could only follow one are replaced. -/
theorem decodeAll_of_lead {bytes more : List UInt8} {ended : Bool} (nonempty : bytes ≠ [])
    (first : decode (bytes ++ more) ended = .rune ⟨replacement, 1⟩)
    (inside : ∀ byte ∈ bytes.tail, continues byte = true) :
    decodeAll ended (bytes ++ more) =
      List.replicate bytes.length ⟨replacement, 1⟩ ++ decodeAll ended more := by
  obtain ⟨lead, others, rfl⟩ := List.exists_cons_of_ne_nil nonempty
  rw [decodeAll_of_rune first]
  exact congrArg (_ :: ·) (decodeAll_of_continues inside more ended)

/-! ### What is laid out like a scalar value -/

def capacity : Nat → Nat
  | 2 => 0x800
  | 3 => 0x10000
  | 4 => 0x200000
  | _ => 0x80

/-- A value laid out in some bytes, whether or not it is a scalar value and can do with fewer: the
lead byte tells their number and holds the highest digits, each byte behind it holds six bits
more. -/
def spread : Nat → Nat → List UInt8
  | 2, value => [UInt8.ofNat (0xC0 + value / 64), UInt8.ofNat (0x80 + value % 64)]
  | 3, value =>
      [UInt8.ofNat (0xE0 + value / 4096), UInt8.ofNat (0x80 + value / 64 % 64),
        UInt8.ofNat (0x80 + value % 64)]
  | 4, value =>
      [UInt8.ofNat (0xF0 + value / 262144), UInt8.ofNat (0x80 + value / 4096 % 64),
        UInt8.ofNat (0x80 + value / 64 % 64), UInt8.ofNat (0x80 + value % 64)]
  | _, value => [UInt8.ofNat value]

private theorem toNat_ofNat_small {value : Nat} (small : value < 256) :
    (UInt8.ofNat value).toNat = value := by
  rw [UInt8.toNat_ofNat', Nat.mod_eq_of_lt small]

private theorem ofNat_eq {value : Nat} {byte : UInt8} (same : value = byte.toNat) :
    UInt8.ofNat value = byte := by
  rw [same, UInt8.ofNat_toNat]

/-- The encoding of a scalar value is its layout in as few bytes as hold it. -/
theorem encode_eq_spread (char : Char) :
    encode char = spread (encode char).length char.toNat ∧
      char.toNat < capacity (encode char).length ∧
      ((encode char).length = 1 ∨ capacity ((encode char).length - 1) ≤ char.toNat) := by
  have spelled := spells_encode char
  generalize encode char = bytes at spelled ⊢
  generalize char.toNat = value at spelled ⊢
  cases spelled with
  | one lead small =>
      refine ⟨?_, Nat.lt_succ_of_le small, .inl rfl⟩
      exact congrArg (fun byte => [byte]) (ofNat_eq rfl).symm
  | two lead second =>
      refine ⟨?_, ?_, .inr ?_⟩
      · simp only [List.length_cons, List.length_nil, spread]
        rw [ofNat_eq (show _ = lead.toNat by omega), ofNat_eq (show _ = second.toNat by omega)]
      · simp only [List.length_cons, List.length_nil, capacity]
        omega
      · simp only [List.length_cons, List.length_nil, capacity]
        omega
  | three lead second third =>
      refine ⟨?_, ?_, .inr ?_⟩
      · simp only [List.length_cons, List.length_nil, spread]
        rw [ofNat_eq (show _ = lead.toNat by omega), ofNat_eq (show _ = second.toNat by omega),
          ofNat_eq (show _ = third.toNat by omega)]
      · simp only [List.length_cons, List.length_nil, capacity]
        omega
      · simp only [List.length_cons, List.length_nil, capacity]
        omega
  | four lead second third fourth =>
      refine ⟨?_, ?_, .inr ?_⟩
      · simp only [List.length_cons, List.length_nil, spread]
        rw [ofNat_eq (show _ = lead.toNat by omega), ofNat_eq (show _ = second.toNat by omega),
          ofNat_eq (show _ = third.toNat by omega), ofNat_eq (show _ = fourth.toNat by omega)]
      · simp only [List.length_cons, List.length_nil, capacity]
        omega
      · simp only [List.length_cons, List.length_nil, capacity]
        omega

/-- Bytes in front of others that go like an encoding, or part of one, and are none. -/
inductive Faulty (ended : Bool) (more : List UInt8) : List UInt8 → Prop where
  | overlong (width value : Nat) : 2 ≤ width → width ≤ 4 → value < capacity (width - 1) →
      Faulty ended more (spread width value)
  | surrogate (value : Nat) : 0xD800 ≤ value → value ≤ 0xDFFF → Faulty ended more (spread 3 value)
  | tooLarge (value : Nat) : 0x10FFFF < value → value < capacity 4 →
      Faulty ended more (spread 4 value)
  | stray (byte : UInt8) : 0x80 ≤ byte.toNat → byte.toNat ≤ 0xBF → Faulty ended more [byte]
  /-- A byte that stands in no encoding. -/
  | unused (byte : UInt8) : byte.toNat = 0xC0 ∨ byte.toNat = 0xC1 ∨ 0xF5 ≤ byte.toNat →
      Faulty ended more [byte]
  /-- The beginning of an encoding that does not go on like one, or comes to the end. -/
  | broken (bytes : List UInt8) : Truncated bytes →
      (∀ char rest, bytes ++ more ≠ encode char ++ rest) →
      (ended = true ∨ ¬ Truncated (bytes ++ more)) → Faulty ended more bytes

/-- The second byte of an encoding is bounded by the first. -/
private theorem unspelled_of_pair {lead second : UInt8} (others : List UInt8)
    (large : 0x7F < lead.toNat)
    (fault : ¬(0xC2 ≤ lead.toNat ∧ lead.toNat ≤ 0xF4 ∧
      (lead.toNat = 0xE0 → 0xA0 ≤ second.toNat) ∧ (lead.toNat = 0xED → second.toNat ≤ 0x9F) ∧
      (lead.toNat = 0xF0 → 0x90 ≤ second.toNat) ∧ (lead.toNat = 0xF4 → second.toNat ≤ 0x8F))) :
    Unspelled (lead :: second :: others) := by
  intro char more rest same
  obtain ⟨_, _, front, small | ⟨low, high, _, _, behind, _, _, bounds⟩⟩ := lead_of_encode same
  · cases front
    omega
  · cases front
    cases behind
    exact fault ⟨low, high, bounds⟩

/-- A faulty layout goes wrong in its first two bytes, and those behind the first are replaced. -/
private theorem faulty_spread {width value : Nat} (atLeast : 2 ≤ width) (atMost : width ≤ 4)
    (fits : value < capacity width)
    (fault : value < capacity (width - 1) ∨ (width = 3 ∧ 0xD800 ≤ value ∧ value ≤ 0xDFFF) ∨
      (width = 4 ∧ 0x10FFFF < value)) :
    Unspelled (spread width value) ∧ spread width value ≠ [] ∧
      ∀ byte ∈ (spread width value).tail, continues byte = true := by
  have inside (value : Nat) : continues (UInt8.ofNat (0x80 + value % 64)) = true := by
    rw [continues_iff, toNat_ofNat_small (by omega)]
    omega
  obtain rfl | rfl | rfl : width = 2 ∨ width = 3 ∨ width = 4 := by omega
  · simp only [capacity] at fits fault
    refine ⟨unspelled_of_pair _ ?_ ?_, List.cons_ne_nil _ _, ?_⟩
    · rw [toNat_ofNat_small (by omega)]
      omega
    · rw [toNat_ofNat_small (by omega)]
      omega
    · exact List.forall_mem_singleton.mpr (inside _)
  · simp only [capacity] at fits fault
    refine ⟨unspelled_of_pair _ ?_ ?_, List.cons_ne_nil _ _, ?_⟩
    · rw [toNat_ofNat_small (by omega)]
      omega
    · rw [toNat_ofNat_small (by omega), toNat_ofNat_small (by omega)]
      omega
    · exact List.forall_mem_cons.mpr ⟨inside _, List.forall_mem_singleton.mpr (inside _)⟩
  · simp only [capacity] at fits fault
    refine ⟨unspelled_of_pair _ ?_ ?_, List.cons_ne_nil _ _, ?_⟩
    · rw [toNat_ofNat_small (by omega)]
      omega
    · rw [toNat_ofNat_small (by omega), toNat_ofNat_small (by omega)]
      omega
    · exact List.forall_mem_cons.mpr ⟨inside _,
        List.forall_mem_cons.mpr ⟨inside _, List.forall_mem_singleton.mpr (inside _)⟩⟩

theorem Faulty.decodeAll_append {ended : Bool} {more bytes : List UInt8}
    (faulty : Faulty ended more bytes) : decodeAll ended (bytes ++ more) =
      List.replicate bytes.length ⟨replacement, 1⟩ ++ decodeAll ended more := by
  have layout {width value : Nat} (atLeast : 2 ≤ width) (atMost : width ≤ 4)
      (fits : value < capacity width)
      (fault : value < capacity (width - 1) ∨ (width = 3 ∧ 0xD800 ≤ value ∧ value ≤ 0xDFFF) ∨
        (width = 4 ∧ 0x10FFFF < value)) :
      decodeAll ended (spread width value ++ more) =
        List.replicate (spread width value).length ⟨replacement, 1⟩ ++ decodeAll ended more := by
    obtain ⟨unspelled, nonempty, inside⟩ := faulty_spread atLeast atMost fits fault
    exact decodeAll_of_lead nonempty (unspelled.decode_append nonempty more ended) inside
  have alone {byte : UInt8} (unspelled : Unspelled [byte]) :
      decodeAll ended ([byte] ++ more) =
        List.replicate 1 ⟨replacement, 1⟩ ++ decodeAll ended more :=
    decodeAll_of_rune (unspelled.decode_append (List.cons_ne_nil byte []) more ended)
  cases faulty with
  | overlong width value atLeast atMost small =>
      have fits : value < capacity width := by
        obtain rfl | rfl | rfl : width = 2 ∨ width = 3 ∨ width = 4 := by omega
        all_goals
          simp only [capacity] at small ⊢
          omega
      exact layout atLeast atMost fits (.inl small)
  | surrogate value low high =>
      have fits : value < capacity 3 := by
        simp only [capacity]
        omega
      exact layout (by decide) (by decide) fits (.inr (.inl ⟨rfl, low, high⟩))
  | tooLarge value large fits =>
      exact layout (by decide) (by decide) fits (.inr (.inr ⟨rfl, large⟩))
  | stray byte low high =>
      exact alone (unspelled_of_continues ((continues_iff byte).mpr ⟨low, high⟩))
  | unused byte outside =>
      apply alone
      intro char more rest same
      obtain ⟨lead, others, front, shape⟩ := lead_of_encode same
      cases front
      omega
  | broken bytes truncated malformed settled =>
      have first := decode_of_malformed
        (List.append_ne_nil_of_left_ne_nil truncated.1 more) malformed settled
      exact decodeAll_of_lead truncated.1 first fun _ => continues_of_truncated truncated

end RuneScan.Utf8
