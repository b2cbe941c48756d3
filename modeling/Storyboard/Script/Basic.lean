/-!
# Scripts

A script is the brief for a video: scenes in the order they are shown, each with
its length, its text on screen and directions, and a palette for all of them.
-/

namespace Storyboard

/-- The text shown during a scene. -/
structure SceneText where
  headline : String
  subhead : String
  bullets : List String
  /-- Words to stress. -/
  emphasis : List String
deriving DecidableEq, Repr

/-- A timed part of the video. -/
structure Scene where
  id : String
  /-- In seconds. -/
  duration : Float
  mood : String
  text : SceneText
  direction : String
  voiceover : Option String

/-- The colours of the video. -/
structure Palette where
  primary : String
  secondary : String
  accent : String
  background : String
deriving DecidableEq, Repr

/-- The brief for a video, with at least one scene. -/
structure Script where
  /-- Empty until the script is stored. -/
  id : String
  scenes : List Scene
  palette : Palette
  voiceover : String
  imagePrompts : List String
  filled : scenes ≠ []

/-- No text at all. -/
def SceneText.blank : SceneText := ⟨"", "", [], []⟩

/-- The colours of a script that names none. -/
def Palette.standard : Palette := ⟨"#6366f1", "#7c3aed", "#ec4899", "#0a0a0a"⟩

/-- The colours that scenes without an image take in turn. -/
def Palette.tints (palette : Palette) : List String :=
  [palette.primary, palette.secondary, palette.accent]

/-- The length of all scenes in seconds, added up from the first scene on. -/
def Script.totalDuration (script : Script) : Float :=
  script.scenes.foldl (fun total scene => total + scene.duration) 0

end Storyboard
