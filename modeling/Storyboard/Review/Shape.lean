import Storyboard.Review.Signature
import Storyboard.Text.Search

/-!
# The shape of a composition

Code that a host can run returns a component, uses the primitives it is given,
has a layout primitive and markup, and is longer than any stub.
-/

namespace Storyboard.Review

open Storyboard.Text

/-- The first character of a name in code. -/
def startsName (c : Char) : Bool := c.isAlpha || c == '_' || c == '$'

/-- The word that ends a composition. -/
def returnPieces : List Piece := [.word "return".toList, .gap]

/-- A statement that returns a name stands at the head of the text. -/
def returnsName (before : Option Char) (text : List Char) : Bool :=
  !before.any isWordChar &&
    (afterPieces? returnPieces text).any fun rest => rest.head?.any startsName

/-- Code of at most so many characters is no composition. -/
def longestStub : Nat := 500

/-- The reports on the shape of the code. -/
def shapeIssues (code : List Char) : List String :=
  let has (word : String) := occurs word.toList code
  let report (fault : Bool) (issue : String) := if fault then [issue] else []
  report (!somewhere returnsName none code)
      "No return statement: code must end with 'return <ComponentName>;'" ++
  report (!has "Remotion")
      "Does not reference Remotion (destructure primitives from the Remotion parameter)" ++
  report (!has "AbsoluteFill" && !has "Sequence")
      "No AbsoluteFill/Sequence found: compositions need a layout primitive" ++
  report (!code.contains '<') "No JSX markup found" ++
  report (code.length ≤ longestStub)
      s!"Code too short for a composition ({code.length} chars, need more than {longestStub})"

end Storyboard.Review
