/-!
# Sets of characters

A class of characters is a list of ranges of code points, both ends included.
-/

namespace KeyChart.Text

/-- Ranges of code points, each from its first to its last member. -/
abbrev CodePoints := List (Nat × Nat)

/-- Whether a character lies in one of the ranges. -/
def CodePoints.covers (ranges : CodePoints) (c : Char) : Bool :=
  ranges.any fun r => r.1 ≤ c.toNat && c.toNat ≤ r.2

end KeyChart.Text
