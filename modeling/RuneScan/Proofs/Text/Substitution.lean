import RuneScan.Text.Lossy
import RuneScan.Proofs.Utf8.Exactness

/-!
What a byte text is shown as, by the encoding alone: its scalar values as they are, and one replacement
for each stretch of malformed bytes. A stretch goes on as long as it could be the beginning of an
encoding, so every byte text is shown in one way, and that is how it is printed.
-/

namespace RuneScan

namespace Utf8

theorem LongestStart.unique {bytes : List UInt8} {first second : Nat}
    (one : LongestStart bytes first) (two : LongestStart bytes second) : first = second := by
  have within {length other : Nat} (start : LongestStart bytes length)
      (more : LongestStart bytes other) : length ≤ other := by
    by_cases several : 1 < length
    · exact more.longest length start.length_le (start.begins several)
    · have positive := more.positive
      omega
  exact Nat.le_antisymm (within one two) (within two one)

theorem encode_append_inj {first second : Char} {more others : List UInt8}
    (same : encode first ++ more = encode second ++ others) : first = second ∧ more = others := by
  have found := scalar?_encode first more
  rw [same, scalar?_encode, Option.some.injEq, Rune.mk.injEq] at found
  obtain ⟨rfl, _⟩ := found
  exact ⟨rfl, List.append_cancel_left same⟩

end Utf8

open Utf8 (LongestStart encode replacement scalar? segments stretch)

namespace Text

inductive ShownAs : List UInt8 → List Char → Prop where
  | nil : ShownAs [] []
  | scalar (char : Char) (more : List UInt8) (others : List Char) : ShownAs more others →
      ShownAs (encode char ++ more) (char :: others)
  | malformed (bytes : List UInt8) (length : Nat) (others : List Char) : bytes ≠ [] →
      (∀ char rest, bytes ≠ encode char ++ rest) → LongestStart bytes length →
      ShownAs (bytes.drop length) others → ShownAs bytes (replacement :: others)

theorem ShownAs.unique {bytes : List UInt8} {first second : List Char}
    (one : ShownAs bytes first) (two : ShownAs bytes second) : first = second := by
  induction one generalizing second with
  | nil =>
      generalize empty : ([] : List UInt8) = bytes at two
      cases two with
      | nil => rfl
      | scalar char more others _ =>
          exact absurd (List.append_eq_nil_iff.mp empty.symm).1 (Utf8.encode_ne_nil char)
      | malformed _ _ _ nonempty => exact absurd empty.symm nonempty
  | scalar char more others _ ih =>
      generalize same : encode char ++ more = bytes at two
      cases two with
      | nil => exact absurd (List.append_eq_nil_iff.mp same).1 (Utf8.encode_ne_nil char)
      | scalar other rest shown further =>
          obtain ⟨rfl, rfl⟩ := Utf8.encode_append_inj same
          rw [ih further]
      | malformed _ _ _ _ malformed => exact absurd same.symm (malformed char more)
  | malformed bytes length others nonempty malformed start _ ih =>
      generalize same : bytes = text at two
      cases two with
      | nil => exact absurd same nonempty
      | scalar char more shown _ => exact absurd same (malformed char more)
      | malformed _ other shown _ _ more further =>
          subst same
          obtain rfl := start.unique more
          rw [ih further]

theorem shownAs_lossy (bytes : List UInt8) : ShownAs bytes (lossy bytes).toList := by
  unfold lossy
  rw [String.toList_ofList]
  fun_induction segments bytes with
  | case1 => exact .nil
  | case2 byte rest rune found ih =>
      obtain ⟨width, more, same⟩ := Utf8.encode_of_scalar? found
      have behind : rest.drop (rune.width - 1) = more := by
        rw [← List.drop_cons (a := byte) (Utf8.scalar?_width_pos found), same, width,
          List.drop_left]
      rw [behind] at ih ⊢
      rw [same]
      exact .scalar rune.char more _ ih
  | case3 byte rest missing width ih =>
      have nonempty := List.cons_ne_nil byte rest
      have malformed : ∀ char more, byte :: rest ≠ encode char ++ more := by
        intro char more same
        rw [same, Utf8.scalar?_encode] at missing
        cases missing
      have start := Utf8.longestStart_stretch nonempty missing
      rw [← List.drop_cons (a := byte) start.positive] at ih ⊢
      exact .malformed _ width _ nonempty malformed start ih

/-- What is printed of a byte text is what it is shown as. -/
theorem shownAs_iff {bytes : List UInt8} {shown : List Char} :
    ShownAs bytes shown ↔ shown = (lossy bytes).toList := by
  constructor
  · intro shows
    exact shows.unique (shownAs_lossy bytes)
  · rintro rfl
    exact shownAs_lossy bytes

end Text
end RuneScan
