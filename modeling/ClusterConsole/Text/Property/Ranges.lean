/-!
# Sets of code points

A property of characters is kept as the list of its ranges of code points, both ends included, in
increasing order.  `inRanges` looks a code point up, and stops at the first range that begins
beyond it.
-/

set_option autoImplicit false

namespace ClusterConsole
namespace Text

/-- Is the code point in one of the ranges?  The ranges are in increasing order. -/
def inRanges : List (Nat × Nat) → Nat → Bool
  | [], _ => false
  | (low, high) :: rest, n => low ≤ n && (n ≤ high || inRanges rest n)

end Text
end ClusterConsole
