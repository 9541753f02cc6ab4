/-! Sets of characters, as ascending ranges of their numbers. -/

namespace ShaderBuild.Text

/-- Whether a number lies in one of some ranges, the first and last number of each included. -/
def inRanges (ranges : List (Nat × Nat)) (number : Nat) : Bool :=
  ranges.any fun range => range.1 ≤ number && number ≤ range.2

/-- A number lies in some ranges when one of them holds it. -/
theorem inRanges_iff {ranges : List (Nat × Nat)} {number : Nat} :
    inRanges ranges number = true ↔
      ∃ range ∈ ranges, range.1 ≤ number ∧ number ≤ range.2 := by
  -- The test goes through the ranges one after the other.
  simp [inRanges]

end ShaderBuild.Text
