import Storyboard.Json.Basic
import Storyboard.Script.Basic

/-!
# Scripts as Json

A script is written with the inner names of its fields. Its numbers are the
lengths of the scenes; how they are written is left open here, since storing
knows no infinite number and writes null in its place.
-/

namespace Storyboard

/-- A list of texts. -/
def textList (texts : List String) : Json := .list (texts.map Json.text)

/-- A text or null. -/
def textOrNull : Option String → Json
  | some text => .text text
  | none => .null

/-- The fields of the text of a scene. -/
def SceneText.body (text : SceneText) : Json := .object [
  ("headline", .text text.headline),
  ("subhead", .text text.subhead),
  ("bullet_points", textList text.bullets),
  ("emphasis", textList text.emphasis)]

/-- The fields of a scene. -/
def Scene.body (number : Float → Json) (scene : Scene) : Json := .object [
  ("id", .text scene.id),
  ("duration", number scene.duration),
  ("mood", .text scene.mood),
  ("on_screen_text", scene.text.body),
  ("visual_direction", .text scene.direction),
  ("voiceover", textOrNull scene.voiceover)]

/-- The fields of a palette. -/
def Palette.body (palette : Palette) : Json := .object [
  ("primary", .text palette.primary),
  ("secondary", .text palette.secondary),
  ("accent", .text palette.accent),
  ("background", .text palette.background)]

/-- The fields of a script. -/
def Script.body (number : Float → Json) (script : Script) : Json := .object [
  ("script_id", .text script.id),
  ("scenes", .list (script.scenes.map (Scene.body number))),
  ("color_palette", script.palette.body),
  ("voiceover_script", .text script.voiceover),
  ("image_prompts", textList script.imagePrompts)]

/-- A number as it is stored: null when it is not finite. -/
def storedNumber (x : Float) : Json := if x.isFinite then .float x else .null

/-- A script as it is stored. -/
def Script.stored (script : Script) : Json := script.body storedNumber

end Storyboard
