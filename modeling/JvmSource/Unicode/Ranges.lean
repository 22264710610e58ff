/-!
# Ranges of code points

A set of characters is given by the ranges of its code points.
-/

namespace JvmSource.Unicode

/-- Ranges of code points, both ends included. -/
abbrev Ranges := List (Nat × Nat)

namespace Ranges

/-- Whether a code point lies in one of the ranges. -/
def covers (ranges : Ranges) (codePoint : Nat) : Bool :=
  ranges.any fun range => decide (range.1 ≤ codePoint) && decide (codePoint ≤ range.2)

/-- Whether the code point of `c` lies in one of the ranges. -/
def contains (ranges : Ranges) (c : Char) : Bool := ranges.covers c.toNat

theorem contains_eq_true_iff {ranges : Ranges} {c : Char} :
    ranges.contains c = true ↔ ∃ range ∈ ranges, range.1 ≤ c.toNat ∧ c.toNat ≤ range.2 := by
  simp [contains, covers]

end Ranges

end JvmSource.Unicode
