import Storyboard.Review.Bracket
import Storyboard.Review.Denylist
import Storyboard.Review.Verdict
import Storyboard.Review.Shape
import Storyboard.Review.Tag

/-!
# Reviewing code

Three layers look at the code text independently of each other: how it is
written, whether it uses a forbidden construct, and whether it has the shape of
a composition. The whole review runs every layer, so that one answer lists every
problem.
-/

namespace Storyboard.Review

open Storyboard.Text

/-- Code of fewer characters, blanks at its ends not counted, is reported. -/
def leastLength : Nat := 50

/-- The report on code that is hardly there. -/
def lengthIssues (code : List Char) : List String :=
  let length := (trimChars code).length
  if length < leastLength then [s!"Code is suspiciously short ({length} chars)"] else []

/-- The layers of a review. -/
inductive Layer where
  | writing
  | safety
  | shape
deriving DecidableEq, Repr

/-- All layers, in the order of their reports. -/
def layers : List Layer := [.writing, .safety, .shape]

/-- What a layer finds in the code. -/
def Layer.issues (layer : Layer) (code : List Char) : List String :=
  match layer with
  | .writing => bracketIssues code ++ tagIssues code ++ lengthIssues code
  | .safety => forbiddenIssues code
  | .shape => shapeIssues code

/-- The heading of a layer in a whole review. -/
def Layer.heading : Layer → String
  | .writing => "[Syntax]"
  | .safety => "[Security]"
  | .shape => "[Structure]"

/-- The verdict of one layer. -/
def Layer.review (layer : Layer) (code : String) : Verdict := .of (layer.issues code.toList)

/-- The verdict of all layers, each issue under the heading of its layer. -/
def review (code : String) : Verdict :=
  .of (layers.flatMap fun layer =>
    (layer.issues code.toList).map fun issue => layer.heading ++ " " ++ issue)

/-- The whole review passes exactly the code that every layer passes. -/
theorem review_passed_iff (code : String) :
    (review code).passed = true ↔ ∀ layer ∈ layers, (layer.review code).passed = true := by
  simp [review, Layer.review, Verdict.of_passed_iff, List.flatMap_eq_nil_iff]

end Storyboard.Review
