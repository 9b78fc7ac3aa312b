/-!
# Sets of characters

A set of characters is a list of inclusive ranges of code points. The tables
of Unicode's character properties are such lists, in ascending order and of
version 17.0.
-/

namespace SteadyStore

/-- Inclusive ranges of code points. -/
abbrev CodeRanges := List (Nat × Nat)

namespace CodeRanges

/-- The character lies in one of the ranges. -/
def contains (ranges : CodeRanges) (c : Char) : Bool :=
  ranges.any fun range => range.1 ≤ c.toNat && c.toNat ≤ range.2

theorem contains_eq_true_iff {ranges : CodeRanges} {c : Char} :
    contains ranges c = true ↔ ∃ range ∈ ranges, range.1 ≤ c.toNat ∧ c.toNat ≤ range.2 := by
  simp [contains]

end CodeRanges

end SteadyStore
