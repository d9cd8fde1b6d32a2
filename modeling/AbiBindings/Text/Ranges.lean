/-!
# Ranges of code points

A property of characters is kept as closed ranges of code points in ascending order. A look-up
stops at the first range that lies above the code point, so the low ranges answer at once.
-/

namespace AbiBindings.Text

/-- Whether a number lies in one of the ranges, which are in ascending order. -/
def inRanges : List (Nat × Nat) → Nat → Bool
  | [], _ => false
  | (first, last) :: rest, n =>
    if n < first then false else if n ≤ last then true else inRanges rest n

end AbiBindings.Text
