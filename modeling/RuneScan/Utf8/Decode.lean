import RuneScan.Utf8.Pattern

/-!
Permissive decoding of one rune at a time. A byte that begins no scalar value is replaced by
U+FFFD and takes up exactly one byte, so decoding resumes at the byte after it. While more input
may come, a front that is only the beginning of a scalar value is reported as incomplete instead.
-/

namespace RuneScan

structure Rune where
  char : Char
  width : Nat
deriving DecidableEq, Repr

namespace Utf8

def maxWidth : Nat := 4

def replacement : Char := Char.ofNat 0xFFFD

def encode (char : Char) : List UInt8 :=
  String.utf8EncodeChar char

def encodeAll (chars : List Char) : List UInt8 :=
  chars.flatMap encode

def scalar? : List UInt8 → Option Rune
  | [] => none
  | lead :: rest =>
      match Pattern.ofLead? lead with
      | none => none
      | some pattern =>
          let tails := pattern.continuation.length
          if agreement pattern.continuation rest = tails then
            some ⟨Char.ofNat (pattern.value (rest.take tails)), pattern.width⟩
          else
            none

def isTruncated : List UInt8 → Bool
  | [] => false
  | lead :: rest =>
      match Pattern.ofLead? lead with
      | none => false
      | some pattern =>
          agreement pattern.continuation rest = rest.length &&
            rest.length < pattern.continuation.length

inductive Decoded where
  | empty
  | incomplete
  | rune (rune : Rune)
deriving DecidableEq, Repr

/-- The rune at the front when no more bytes will come. -/
def front (bytes : List UInt8) : Rune :=
  (scalar? bytes).getD ⟨replacement, 1⟩

/-- Decodes the front of `bytes`. Once the input has `ended`, a truncated scalar value is malformed
like any other. -/
def decode (bytes : List UInt8) (ended : Bool) : Decoded :=
  if bytes.isEmpty then .empty
  else if !ended && isTruncated bytes then .incomplete
  else .rune (front bytes)

def runes : List UInt8 → List Rune
  | [] => []
  | byte :: rest =>
      let rune := front (byte :: rest)
      rune :: runes (rest.drop (rune.width - 1))
termination_by bytes => bytes.length
decreasing_by
  simp only [List.length_drop, List.length_cons]
  omega

theorem scalar?_width_pos {bytes : List UInt8} {rune : Rune}
    (found : scalar? bytes = some rune) : 0 < rune.width := by
  unfold scalar? at found
  split at found
  · contradiction
  · split at found
    · contradiction
    · simp only [Option.ite_none_right_eq_some, Option.some.injEq] at found
      rw [← found.2]
      exact Nat.succ_pos _

theorem scalar?_width_le {bytes : List UInt8} {rune : Rune}
    (found : scalar? bytes = some rune) : rune.width ≤ bytes.length := by
  unfold scalar? at found
  split at found
  · contradiction
  · rename_i lead rest
    split at found
    · contradiction
    · rename_i pattern announced
      simp only [Option.ite_none_right_eq_some, Option.some.injEq] at found
      have within := agreement_le_bytes pattern.continuation rest
      rw [← found.2]
      simp only [Pattern.width, List.length_cons]
      omega

theorem front_width_pos (bytes : List UInt8) : 0 < (front bytes).width := by
  unfold front
  cases found : scalar? bytes with
  | none => exact Nat.one_pos
  | some rune => exact scalar?_width_pos found

theorem front_width_le {bytes : List UInt8} (nonempty : bytes ≠ []) :
    (front bytes).width ≤ bytes.length := by
  unfold front
  cases found : scalar? bytes with
  | none => exact List.length_pos_iff.mpr nonempty
  | some rune => exact scalar?_width_le found

theorem decode_rune_width {bytes : List UInt8} {ended : Bool} {rune : Rune}
    (decoded : decode bytes ended = .rune rune) :
    0 < rune.width ∧ rune.width ≤ bytes.length := by
  unfold decode at decoded
  split at decoded
  · contradiction
  · rename_i nonempty
    split at decoded
    · contradiction
    · rw [Decoded.rune.injEq] at decoded
      rw [← decoded]
      exact ⟨front_width_pos bytes, front_width_le (by simpa using nonempty)⟩

end Utf8
end RuneScan
