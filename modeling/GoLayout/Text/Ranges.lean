/-!
# Ranges of code points

A character property is a table of inclusive ranges of code points in ascending order.
-/

namespace GoLayout.Text

/-- Whether a number lies in one of the ranges. -/
def inRanges (ranges : List (Nat × Nat)) (n : Nat) : Bool :=
  ranges.any fun r => r.1 ≤ n && n ≤ r.2

/-- A number lies in a table if it lies between the ends of an entry. -/
theorem inRanges_iff {ranges : List (Nat × Nat)} {n : Nat} :
    inRanges ranges n = true ↔ ∃ r ∈ ranges, r.1 ≤ n ∧ n ≤ r.2 := by
  simp [inRanges]

end GoLayout.Text
