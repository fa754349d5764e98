/-!
Sets of characters given by code point ranges, the form in which character databases publish
their properties.
-/

namespace TeacherRegistry.Text

/-- Whether `c` lies in one of the ranges; both ends of a range belong to it. -/
def inRanges (ranges : List (Nat × Nat)) (c : Char) : Bool :=
  ranges.any fun range => range.1 ≤ c.toNat && c.toNat ≤ range.2

theorem inRanges_iff (ranges : List (Nat × Nat)) (c : Char) :
    inRanges ranges c = true ↔ ∃ range ∈ ranges, range.1 ≤ c.toNat ∧ c.toNat ≤ range.2 := by
  simp [inRanges]

end TeacherRegistry.Text
