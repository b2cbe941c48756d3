/-!
# What a review reports

A review of code yields a list of issues; the code passes when the list is empty.
-/

namespace Storyboard.Review

/-- A verdict with the issues that led to it. -/
structure Verdict where
  passed : Bool
  issues : List String
deriving DecidableEq, Repr

/-- The verdict on a list of issues. -/
def Verdict.of (issues : List String) : Verdict := ⟨issues.isEmpty, issues⟩

theorem Verdict.of_passed_iff (issues : List String) :
    (Verdict.of issues).passed = true ↔ issues = [] := by
  simp [Verdict.of]

end Storyboard.Review
