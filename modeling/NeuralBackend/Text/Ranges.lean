/-!
# Sets of characters

A set of characters is a list of ranges of code points, both ends included.
-/

namespace NeuralBackend.Text

/-- A list of ranges of code points. -/
abbrev CharRanges := List (Nat × Nat)

/-- Whether a character lies in one of the ranges. -/
def CharRanges.holds (ranges : CharRanges) (c : Char) : Bool :=
  ranges.any fun r => r.1 ≤ c.toNat && c.toNat ≤ r.2

end NeuralBackend.Text
