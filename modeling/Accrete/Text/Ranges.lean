/-!
# Ranges of code points

Classes of characters are given as lists of inclusive ranges of code points.
-/

namespace Accrete.Text

/-- Whether a code point lies in one of the inclusive ranges. -/
def inRanges (ranges : List (Nat × Nat)) (code : Nat) : Bool :=
  ranges.any fun r => r.1 ≤ code && code ≤ r.2

end Accrete.Text
