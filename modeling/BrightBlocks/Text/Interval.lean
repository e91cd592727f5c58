/-!
# Sets of code points

A set of code points is stored as ascending, disjoint, inclusive intervals.
Looking a point up stops at the first interval that lies above it, so the
characters at the front of a table are found at once.
-/

namespace BrightBlocks.Text

/-- Ascending, disjoint intervals of code points, both ends included. -/
abbrev Intervals := List (Nat × Nat)

namespace Intervals

/-- Whether a code point lies in one of the intervals. -/
def contains : Intervals → Nat → Bool
  | [], _ => false
  | (low, high) :: rest, point =>
    if point < low then false else decide (point ≤ high) || contains rest point

/-- How far a code point lies above the start of its interval. -/
def position? : Intervals → Nat → Option Nat
  | [], _ => none
  | (low, high) :: rest, point =>
    if point < low then none
    else if point ≤ high then some (point - low)
    else position? rest point

end Intervals

end BrightBlocks.Text
