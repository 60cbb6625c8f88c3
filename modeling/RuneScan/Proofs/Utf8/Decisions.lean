import RuneScan.Proofs.Utf8.Exactness

/-!
A decision once taken is final. Bytes that are not the beginning of a scalar value decode to the same
rune whatever comes behind them and whether or not the input has ended; bytes that are waited for can
still become one; and a rune is decided by its own bytes alone. So no rune that has been delivered is
changed by what arrives later.
-/

namespace RuneScan.Utf8

/-- Decisions of a decoder are final, where it waits for the bytes that are truncated. -/
structure Final (truncated : List UInt8 → Bool) (decoder : List UInt8 → Bool → Decoded) : Prop where
  settled : ∀ bytes more ended finished, bytes ≠ [] → truncated bytes = false →
    decoder (bytes ++ more) ended = decoder bytes finished
  completable : ∀ bytes, truncated bytes = true →
    ∃ more char, more ≠ [] ∧ bytes ++ more = encode char
  alone : ∀ bytes ended rune, decoder bytes ended = .rune rune →
    decoder (bytes.take rune.width) true = .rune rune

theorem decode_append {bytes : List UInt8} (nonempty : bytes ≠ [])
    (settled : isTruncated bytes = false) (more : List UInt8) (ended finished : Bool) :
    decode (bytes ++ more) ended = decode bytes finished := by
  have longer : bytes ++ more ≠ [] := List.append_ne_nil_of_left_ne_nil nonempty more
  rw [decode_of_settled longer (.inr (isTruncated_append nonempty settled more)),
    decode_of_settled nonempty (.inr settled), front_append nonempty settled more]

theorem decode_take_width {bytes : List UInt8} {ended : Bool} {rune : Rune}
    (decoded : decode bytes ended = .rune rune) :
    decode (bytes.take rune.width) true = .rune rune := by
  have decoding := decode_decoding bytes ended
  rw [decoded] at decoding
  cases decoding with
  | rune nonempty _ =>
      have taken : bytes.take (front bytes).width ≠ [] := by
        rw [ne_eq, List.take_eq_nil_iff, not_or]
        exact ⟨Nat.ne_of_gt (front_width_pos bytes), nonempty⟩
      rw [decode_of_settled taken (.inl rfl), front_take_width nonempty]

theorem decode_final : Final isTruncated decode := by
  constructor
  · intro bytes more ended finished nonempty settled
    exact decode_append nonempty settled more ended finished
  · intro bytes truncated
    obtain ⟨_, char, more, some, same⟩ := truncated_of_isTruncated truncated
    exact ⟨more, char, some, same⟩
  · intro bytes ended rune decoded
    exact decode_take_width decoded

/-- What has been delivered while more might come stays in front, whatever comes and however the
input ends. -/
theorem decodeAll_prefix (bytes more : List UInt8) (ended : Bool) :
    decodeAll false bytes <+: decodeAll ended (bytes ++ more) := by
  fun_induction decodeAll false bytes with
  | case1 bytes rune decoded ih =>
      have within := (decode_rune_width decoded).2
      have decoding := decode_decoding bytes false
      rw [decoded] at decoding
      cases decoding with
      | rune nonempty settled =>
          have kept := decode_append nonempty (settled.resolve_left Bool.false_ne_true) more ended false
          rw [decodeAll_of_rune (kept.trans decoded), List.drop_append_of_le_length within]
          exact List.cons_prefix_cons.mpr ⟨rfl, ih⟩
  | case2 => exact List.nil_prefix
  | case3 => exact List.nil_prefix

/-- The decisions of the decoder are final, also where it goes by any faithful scan of the front, and
so are the runes that it delivers one after the other. -/
theorem decisions_are_final {scan : Scan} (faithful : scan.Faithful) :
    Final isTruncated decode ∧ Final scan.isTruncated scan.decode ∧
      ∀ bytes more ended, decodeAll false bytes <+: decodeAll ended (bytes ++ more) := by
  have sameTest : scan.isTruncated = isTruncated := funext faithful.isTruncated_eq
  have sameDecoder : scan.decode = decode :=
    funext fun bytes => funext fun ended => faithful.decode_eq bytes ended
  refine ⟨decode_final, ?_, decodeAll_prefix⟩
  rw [sameTest, sameDecoder]
  exact decode_final

/-- The beginning of a euro sign is waited for and can be completed. An overlong form is decided at
its second byte, before the others that its lead byte announces have come. -/
theorem decisions_are_final_overlong :
    scanFront.Faithful ∧ scanFront.decode [0xE2, 0x82] false = .incomplete ∧
      [0xE2, 0x82] ++ [0xAC] = encode '€' ∧
      scanFront.decode [0xF0, 0x80] false = .rune ⟨replacement, 1⟩ ∧
      scanFront.decode [0xF0, 0x80, 0x80, 0x80] true = .rune ⟨replacement, 1⟩ ∧
      decodeAll false [0x61, 0xE2, 0x82] = [⟨'a', 1⟩] ∧
      decodeAll true [0x61, 0xE2, 0x82, 0xAC] = [⟨'a', 1⟩, ⟨'€', 3⟩] ∧
      Final isTruncated decode ∧ Final scanFront.isTruncated scanFront.decode ∧
      ∀ bytes more ended, decodeAll false bytes <+: decodeAll ended (bytes ++ more) := by
  have waits : scanFront.decode [0xE2, 0x82] false = .incomplete := by decide +kernel
  have euro : [0xE2, 0x82] ++ [0xAC] = encode '€' := by decide +kernel
  have overlong : scanFront.decode [0xF0, 0x80] false = .rune ⟨replacement, 1⟩ := by decide +kernel
  have law := decisions_are_final scanFront_faithful
  have later := law.2.1.settled [0xF0, 0x80] [0x80, 0x80] true false (List.cons_ne_nil _ _)
    (by decide +kernel)
  have before : decodeAll false [0x61, 0xE2, 0x82] = [⟨'a', 1⟩] := by decide +kernel
  have after : decodeAll true [0x61, 0xE2, 0x82, 0xAC] = [⟨'a', 1⟩, ⟨'€', 3⟩] := by decide +kernel
  exact ⟨scanFront_faithful, waits, euro, overlong, later.trans overlong, before, after, law⟩

end RuneScan.Utf8
