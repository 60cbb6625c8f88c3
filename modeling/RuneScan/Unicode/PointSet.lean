/-!
Sets of code points, kept as the ascending list of points at which membership changes.
-/

namespace RuneScan.Unicode

/-- The first listed point is the least member, the second the next point that is not one, and so
on in turn. -/
structure PointSet where
  changes : List Nat

/-- Membership of `point` where everything below the first listed point has status `inside`. -/
def PointSet.status (inside : Bool) (point : Nat) : List Nat → Bool
  | [] => inside
  | change :: rest => if point < change then inside else status (!inside) point rest

def PointSet.contains (set : PointSet) (char : Char) : Bool :=
  PointSet.status false char.toNat set.changes

end RuneScan.Unicode
