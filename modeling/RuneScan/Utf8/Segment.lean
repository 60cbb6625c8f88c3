import RuneScan.Utf8.Decode

/-!
Byte text cut into scalar values and malformed stretches. A malformed stretch is the longest front
that follows a pattern without completing it, or a single byte that begins no pattern. It is the
unit in which text is printed; a cursor steps through the same bytes one at a time.
-/

namespace RuneScan.Utf8

inductive Segment where
  | scalar (char : Char)
  | malformed (bytes : List UInt8)
deriving DecidableEq, Repr

/-- The number of bytes in the malformed stretch at the front, at least one. -/
def stretch (bytes : List UInt8) : Nat :=
  max 1 (matched bytes)

def segments : List UInt8 → List Segment
  | [] => []
  | byte :: rest =>
      match scalar? (byte :: rest) with
      | some rune => .scalar rune.char :: segments (rest.drop (rune.width - 1))
      | none =>
          let width := stretch (byte :: rest)
          .malformed ((byte :: rest).take width) :: segments (rest.drop (width - 1))
termination_by bytes => bytes.length
decreasing_by
  all_goals
    simp only [List.length_drop, List.length_cons]
    omega

end RuneScan.Utf8
