/-!
# Ranges of code points

Properties of characters are given as ascending lists of closed ranges of code points.
-/

namespace MarkerWatch.Text

/-- Whether a code point lies in one of the ranges. -/
def inRanges (n : Nat) : List (Nat × Nat) → Bool
  | [] => false
  | (first, last) :: rest => (first ≤ n && n ≤ last) || inRanges n rest

theorem inRanges_iff (n : Nat) (ranges : List (Nat × Nat)) :
    inRanges n ranges = true ↔ ∃ range ∈ ranges, range.1 ≤ n ∧ n ≤ range.2 := by
  induction ranges with
  | nil => simp [inRanges]
  | cons range rest ih => simp [inRanges, ih]

end MarkerWatch.Text
