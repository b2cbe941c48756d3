import Storyboard.Canvas
import Storyboard.Prompt.Words

/-!
# The user prompt

What the model is told about one video: its length and canvas, its colours, each
scene with its place on the timeline, the images, the narration, and what the
code has to do.
-/

namespace Storyboard.Prompt

open Decimal (NumberFault wholeText)

/-- What a video is made of. -/
structure Brief where
  script : Script
  imageUrls : List String
  narration : Option Narration
  /-- The length of the whole video. -/
  frames : Int
  fps : Int
  canvas : Canvas

/-- Addresses of more characters are cut. -/
def longestUrl : Nat := 80

/-- An address, cut when it is long. -/
def previewUrl (url : String) : String :=
  if url.length ≤ longestUrl then url
  else String.ofList (url.toList.take longestUrl) ++ "..."

/-- The slot of a scene on the timeline that the prompt lays out. -/
structure Slot where
  scene : Scene
  start : Int
  frames : Int

/-- The slots of scenes that lie end to end, the first from frame `start` on. -/
def slots (fps : Int) (start : Int) : List Scene → Except NumberFault (List Slot)
  | [] => .ok []
  | scene :: rest => do
    let frames ← framesOf scene.duration fps
    let later ← slots fps (start + frames) rest
    .ok (⟨scene, start, frames⟩ :: later)

/-- A line that is there only with something to say. -/
def lineUnless (empty : Bool) (line : String) : List String := if empty then [] else [line]

/-- The lines on the text of a scene. -/
def textLines (text : SceneText) : List String :=
  lineUnless text.headline.isEmpty s!"  Headline: \"{text.headline}\"" ++
  lineUnless text.subhead.isEmpty s!"  Subhead: \"{text.subhead}\"" ++
  lineUnless text.bullets.isEmpty "  Bullets:" ++
  text.bullets.map (fun bullet => s!"    - \"{bullet}\"") ++
  lineUnless text.emphasis.isEmpty ("  Emphasis words: " ++ String.intercalate ", " text.emphasis)

/-- The line that places a scene on the timeline. -/
def Slot.heading (slot : Slot) : String :=
  s!"### Scene \"{slot.scene.id}\" ({wholeText slot.frames} frames, " ++
    s!"from={wholeText slot.start}, mood: {slot.scene.mood})"

/-- The lines on a scene. -/
def Slot.lines (slot : Slot) : List String :=
  slot.heading :: textLines slot.scene.text ++
  [s!"  Visual direction: {slot.scene.direction}"] ++
  (match slot.scene.voiceover with
    | some spoken => lineUnless spoken.isEmpty s!"  Voiceover: \"{spoken}\""
    | none => []) ++
  [""]

/-- The lines on the length and the canvas. -/
def specLines (brief : Brief) : Except NumberFault (List String) := do
  let seconds ← Decimal.doubleOfQuotient brief.frames brief.fps
  return ["## VIDEO SPECS",
    s!"- Total duration: {wholeText brief.frames} frames " ++
      s!"({Decimal.ratioText seconds}s at {wholeText brief.fps}fps)",
    s!"- Dimensions: {wholeText brief.canvas.width}x{wholeText brief.canvas.height}",
    ""]

/-- The lines on the colours. -/
def paletteLines (palette : Palette) : List String := [
  "## COLOR PALETTE",
  s!"- Primary: {palette.primary}",
  s!"- Secondary: {palette.secondary}",
  s!"- Accent: {palette.accent}",
  s!"- Background: {palette.background}",
  "Use the C (theme colors) object, and these palette colors where they match the mood.",
  ""]

/-- The lines on the scenes. -/
def sceneLines (brief : Brief) : Except NumberFault (List String) := do
  return "## SCENES" :: (← slots brief.fps 0 brief.script.scenes).flatMap Slot.lines

/-- The lines on the images. -/
def imageLines (urls : List String) : List String :=
  s!"## AVAILABLE IMAGES ({urls.length} total)" ::
  (urls.mapIdx fun index url => s!"  images[{index}]: {previewUrl url}") ++
  ["Use CinematicBG with images for visually rich scenes, or CenterScene for text-focused scenes.",
    ""]

/-- The section on the spoken words, if there are any. -/
def wordLines (words : List WordTiming) (fps : Int) : Except NumberFault (List String) :=
  if words.isEmpty then .ok [] else (wordSection words fps).map ([·])

/-- The lines on the narration. -/
def narrationLines (narration : Option Narration) (fps : Int) : Except NumberFault (List String) :=
  match narration with
  | none => .ok ["## AUDIO", "No audio: this is a text-only video.", ""]
  | some track => (wordLines track.words fps).map fun words =>
    ["## AUDIO", "audioUrl is available: add <Audio src=\x7baudioUrl\x7d /> in the first Sequence.",
      s!"Audio duration: {Decimal.fixedText 1 track.duration}s"] ++ words ++ [""]

/-- The lines on what the code has to do. -/
def requirementLines (frames : Int) : List String := [
  "## REQUIREMENTS",
  s!"- Total frames: {wholeText frames} (Sequences must add up to this)",
  "- Every scene needs an exit animation (useExit)",
  "- The last scene should NOT have an exit transition (it holds the final frame)",
  "- Use the component library (CenterScene, FadeUp, ...) instead of raw divs where possible",
  "- Make the animations feel cinematic and professional",
  "",
  "Generate the code now."]

/-- The user prompt for a video. -/
def user (brief : Brief) : Except NumberFault String := do
  let specs ← specLines brief
  let scenes ← sceneLines brief
  let narration ← narrationLines brief.narration brief.fps
  return String.intercalate "\n" <|
    ["Generate a Remotion video composition for the following script.", ""] ++ specs ++
    paletteLines brief.script.palette ++ scenes ++ imageLines brief.imageUrls ++ narration ++
    requirementLines brief.frames

end Storyboard.Prompt
