/-!
# Classes of characters as ranges

A class of characters is a table of ranges of code points in increasing order.
-/

namespace Viewsmith.Text

/-- Whether `n` lies in one of the ranges. The table is in increasing order, so the search stops at
the first range above `n`. -/
def inRanges : List (Nat × Nat) → Nat → Bool
  | [], _ => false
  | (low, high) :: rest, n =>
    if n < low then false else if n ≤ high then true else inRanges rest n

end Viewsmith.Text
