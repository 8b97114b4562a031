/-!
# Sets of characters as code point ranges

The character classes of this library are tables of closed code point ranges. Their data are those
of Unicode 17.
-/

namespace CausalReplica

/-- Closed ranges of code points, in increasing order. -/
abbrev CodeRanges := List (Nat × Nat)

/-- The code point of `c` lies in one of the ranges. -/
def CodeRanges.has (ranges : CodeRanges) (c : Char) : Bool :=
  ranges.any fun r ↦ r.1 ≤ c.toNat && c.toNat ≤ r.2

end CausalReplica
