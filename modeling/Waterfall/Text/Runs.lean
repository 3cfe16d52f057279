/-!
# Character classes as runs

A class of characters is given by the sorted boundaries at which membership changes: a character
belongs to it when an odd number of boundaries lie at or below it.
-/

namespace Waterfall

/-- Membership in the class with the given boundaries. -/
def inRuns (bounds : Array Nat) (c : Char) : Bool :=
  bounds.countP (· ≤ c.toNat) % 2 == 1

end Waterfall
