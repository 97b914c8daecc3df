/-!
# Ranges of characters

A property of characters is given as the list of the ranges of code points that have it.
-/

set_option autoImplicit false
set_option relaxedAutoImplicit false

namespace Dialogue.Text

/-- Whether a character lies in one of the ranges, the ends of each included. -/
def inRanges (ranges : List (Nat × Nat)) (c : Char) : Bool :=
  ranges.any fun range ↦ range.1 ≤ c.toNat && c.toNat ≤ range.2

end Dialogue.Text
