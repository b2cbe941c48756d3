import Storyboard.Decimal.Whole
import Storyboard.Script.Basic

/-!
# The timeline

Times in seconds become whole frames. The scenes of a script lie end to end on
the timeline: each starts where the one before it ends, and takes at least one
frame however short it is.
-/

namespace Storyboard

open Decimal (NumberFault)

/-- The frame rate of every generated video. -/
def frameRate : Int := 30

/-- The whole number of frames nearest to a time. -/
def framesOf (seconds : Float) (fps : Int) : Except NumberFault Int := do
  Decimal.nearestWhole (seconds * (← Decimal.doubleOfInt fps))

/-- The frame that shows at a time. -/
def frameAt (seconds : Float) (fps : Int) : Except NumberFault Int := do
  Decimal.truncate (seconds * (← Decimal.doubleOfInt fps))

/-- The place of a scene on the timeline. -/
structure Segment where
  index : Nat
  scene : Scene
  /-- The first frame. -/
  start : Int
  /-- The count of frames. -/
  frames : Int
  isLast : Bool

/-- The frame after the last one of a segment. -/
def Segment.finish (segment : Segment) : Int := segment.start + segment.frames

/-- The frames a scene takes on the timeline. -/
def Scene.frames (scene : Scene) (fps : Int) : Except NumberFault Int :=
  (framesOf scene.duration fps).map fun frames => max 1 frames

/-- Lays scenes end to end, the first with this index from frame `start` on. -/
def layOut (fps : Int) (index : Nat) (start : Int) :
    List Scene → Except NumberFault (List Segment)
  | [] => .ok []
  | scene :: rest => do
    let frames ← scene.frames fps
    let segments ← layOut fps (index + 1) (start + frames) rest
    .ok (⟨index, scene, start, frames, rest.isEmpty⟩ :: segments)

/-- The timeline of a script. -/
def Script.timeline (script : Script) (fps : Int) : Except NumberFault (List Segment) :=
  layOut fps 0 0 script.scenes

/-- The count of frames that segments take together. -/
def totalFrames (segments : List Segment) : Int :=
  segments.foldl (fun total segment => total + segment.frames) 0

end Storyboard
