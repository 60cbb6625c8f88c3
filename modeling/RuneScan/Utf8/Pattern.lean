/-!
The byte patterns of encoded scalar values. A lead byte fixes which range each byte after it must
lie in. Overlong forms, surrogates and values above U+10FFFF fit no pattern, so nothing has to be
checked after the bytes have been matched.
-/

namespace RuneScan.Utf8

structure ByteRange where
  low : UInt8
  high : UInt8
deriving DecidableEq, Repr

def ByteRange.contains (range : ByteRange) (byte : UInt8) : Bool :=
  range.low ≤ byte && byte ≤ range.high

def ByteRange.tail : ByteRange := ⟨0x80, 0xBF⟩

structure Pattern where
  payload : Nat
  continuation : List ByteRange
deriving DecidableEq, Repr

def Pattern.width (pattern : Pattern) : Nat :=
  pattern.continuation.length + 1

/-- The pattern a byte begins, if it can begin one. The bounds on the second byte after E0, ED, F0
and F4 are what rules out overlong forms, surrogates and values that are too large. -/
def Pattern.ofLead? (lead : UInt8) : Option Pattern :=
  let tail := ByteRange.tail
  if lead ≤ 0x7F then some ⟨lead.toNat, []⟩
  else if lead < 0xC2 then none
  else if lead ≤ 0xDF then some ⟨lead.toNat - 0xC0, [tail]⟩
  else if lead = 0xE0 then some ⟨0x0, [⟨0xA0, 0xBF⟩, tail]⟩
  else if lead = 0xED then some ⟨0xD, [⟨0x80, 0x9F⟩, tail]⟩
  else if lead ≤ 0xEF then some ⟨lead.toNat - 0xE0, [tail, tail]⟩
  else if lead = 0xF0 then some ⟨0x0, [⟨0x90, 0xBF⟩, tail, tail]⟩
  else if lead ≤ 0xF3 then some ⟨lead.toNat - 0xF0, [tail, tail, tail]⟩
  else if lead = 0xF4 then some ⟨0x4, [⟨0x80, 0x8F⟩, tail, tail]⟩
  else none

def agreement : List ByteRange → List UInt8 → Nat
  | range :: ranges, byte :: bytes =>
      if range.contains byte then agreement ranges bytes + 1 else 0
  | _, _ => 0

def Pattern.value (pattern : Pattern) (continuation : List UInt8) : Nat :=
  continuation.foldl (fun value byte => value * 64 + byte.toNat % 64) pattern.payload

theorem agreement_le_ranges (ranges : List ByteRange) (bytes : List UInt8) :
    agreement ranges bytes ≤ ranges.length := by
  fun_induction agreement ranges bytes with
  | case1 range ranges byte bytes inRange ih => simpa using ih
  | case2 => exact Nat.zero_le _
  | case3 => exact Nat.zero_le _

theorem agreement_le_bytes (ranges : List ByteRange) (bytes : List UInt8) :
    agreement ranges bytes ≤ bytes.length := by
  fun_induction agreement ranges bytes with
  | case1 range ranges byte bytes inRange ih => simpa using ih
  | case2 => exact Nat.zero_le _
  | case3 => exact Nat.zero_le _

def matched : List UInt8 → Nat
  | [] => 0
  | lead :: rest =>
      match Pattern.ofLead? lead with
      | none => 0
      | some pattern => agreement pattern.continuation rest + 1

end RuneScan.Utf8
