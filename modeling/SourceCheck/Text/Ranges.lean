/-! # Ranges of code points

    A class of characters is written as a list of inclusive ranges, in
    increasing order.
-/

namespace SourceCheck.Text

/-- One of the ranges holds the code point. -/
def inRanges (ranges : List (Nat × Nat)) (n : Nat) : Bool :=
  ranges.any fun r => r.1 ≤ n && n ≤ r.2

/-- A code point lies in a class exactly when some range holds it. -/
theorem inRanges_iff {ranges : List (Nat × Nat)} {n : Nat} :
    inRanges ranges n = true ↔ ∃ r ∈ ranges, r.1 ≤ n ∧ n ≤ r.2 := by
  simp [inRanges]

end SourceCheck.Text
