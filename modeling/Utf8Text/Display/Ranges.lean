/-!
# Ranges of code points

A set of Unicode code points, given by its ranges in ascending order, both ends included.
-/

namespace Utf8Text.Display

/-- Whether a code point lies in one of some ranges. -/
def inRanges (ranges : List (Nat × Nat)) (n : Nat) : Bool :=
  ranges.any fun range => range.1 ≤ n && n ≤ range.2

end Utf8Text.Display
