/-
Sets of characters given by ranges of code points.
-/

namespace Deadwood.Text

/-- Whether a number lies in one of several ranges, ends included. -/
def inRanges (ranges : List (Nat × Nat)) (n : Nat) : Bool :=
  ranges.any fun range => range.1 ≤ n && n ≤ range.2

end Deadwood.Text
