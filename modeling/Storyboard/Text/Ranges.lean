/-!
# Character classes given by ranges

The wider character classes of this library are lists of inclusive ranges of
code points. The lists are sorted and disjoint, so a character lies in at most
one range.
-/

namespace Storyboard.Text

/-- `c` lies in one of the inclusive ranges. -/
def inRanges (ranges : List (Nat × Nat)) (c : Char) : Bool :=
  ranges.any fun range => range.1 ≤ c.toNat && c.toNat ≤ range.2

theorem inRanges_iff (ranges : List (Nat × Nat)) (c : Char) :
    inRanges ranges c = true ↔ ∃ range ∈ ranges, range.1 ≤ c.toNat ∧ c.toNat ≤ range.2 := by
  simp [inRanges]

end Storyboard.Text
