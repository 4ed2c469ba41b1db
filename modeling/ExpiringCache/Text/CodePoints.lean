/-!
# Sets of code points

A set of code points is a list of closed ranges, in increasing order and apart from each other.
-/

namespace ExpiringCache.Text

/-- A set of code points. -/
abbrev CodePoints := List (Nat × Nat)

/-- The character is in the set. -/
def CodePoints.Contain (set : CodePoints) (c : Char) : Prop :=
  ∃ range ∈ set, range.1 ≤ c.toNat ∧ c.toNat ≤ range.2

instance (set : CodePoints) (c : Char) : Decidable (set.Contain c) :=
  inferInstanceAs (Decidable (∃ range ∈ set, range.1 ≤ c.toNat ∧ c.toNat ≤ range.2))

end ExpiringCache.Text
