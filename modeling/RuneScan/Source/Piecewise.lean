import RuneScan.Source

/-!
Data that arrives in pieces.
-/

namespace RuneScan

/-- Cuts bytes into pieces whose lengths go through `sizes` in turn, over and over. Each piece holds
at least one byte, and the last may be shorter than its size. -/
def pieces (sizes : List Nat) : List UInt8 → List (List UInt8)
  | [] => []
  | byte :: rest =>
      let others := sizes.headD 1 - 1
      (byte :: rest.take others) :: pieces sizes.rotateLeft (rest.drop others)
termination_by bytes => bytes.length
decreasing_by
  simp only [List.length_drop, List.length_cons]
  omega

def Event.piecewise (sizes : List Nat) (stall : Option FaultKind) (bytes : List UInt8) :
    List Event :=
  (pieces sizes bytes).flatMap fun piece =>
    (stall.map fun kind => Event.failure ⟨kind, none⟩).toList ++ [.data piece]

def Source.byteByByte (bytes : List UInt8) : Source :=
  ofEvents (Event.piecewise [1] none bytes)

end RuneScan
