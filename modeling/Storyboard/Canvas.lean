import Storyboard.Checking.Reader
import Storyboard.Log
import Storyboard.Text.Quoted

/-!
# The canvas

A video is rendered on a canvas whose size follows from an aspect ratio. An
unknown ratio is reported and gives the standard canvas.
-/

namespace Storyboard

open Checking

/-- A size in pixels. -/
structure Canvas where
  width : Int
  height : Int
deriving DecidableEq, Repr

namespace Canvas

/-- The ratio of an upright video, taken when none is given. -/
def standardRatio : String := "9:16"

/-- The canvas of the standard ratio. -/
def standard : Canvas := ⟨1080, 1920⟩

/-- The known ratios. -/
def ofRatio? (ratio : String) : Option Canvas :=
  if ratio = standardRatio then some standard
  else if ratio = "16:9" then some ⟨1920, 1080⟩
  else if ratio = "1:1" then some ⟨1080, 1080⟩
  else none

/-- The canvas of a ratio, with a warning about an unknown one. -/
def ofRatio (ratio : String) : Canvas × Log :=
  match ofRatio? ratio with
  | some canvas => (canvas, [])
  | none =>
    (standard, [⟨.warning, .canvas,
      s!"Unknown aspect ratio {Text.quoted ratio}, using {standardRatio}"⟩])

/-- Checks a size. -/
def check : Reader Canvas :=
  readObject "Dimensions" fun fields =>
    Canvas.mk
      <$> required (.same "width") readWhole fields
      <*> required (.same "height") readWhole fields

/-- The fields of a size. -/
def body (canvas : Canvas) : Json := .object [
  ("width", .int canvas.width),
  ("height", .int canvas.height)]

end Canvas

end Storyboard
