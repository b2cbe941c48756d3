import Storyboard.Checking.Reader
import Storyboard.Script.Basic

/-!
# Checking scripts

Callers write field names in camel case or with underscores; unknown fields are
ignored. A scene needs an id and a positive length, a script at least one scene.
-/

namespace Storyboard

open Checking

/-- The mood of a scene that names none. -/
def standardMood : String := "educational"

/-- Checks the text of a scene. -/
def SceneText.check : Reader SceneText :=
  readObject "OnScreenText" fun fields =>
    SceneText.mk
      <$> optional (.same "headline") readText "" fields
      <*> optional (.same "subhead") readText "" fields
      <*> optional ⟨"bulletPoints", "bullet_points"⟩ (readList readText) [] fields
      <*> optional (.same "emphasis") (readList readText) [] fields

/-- Checks a scene. -/
def Scene.check : Reader Scene :=
  readObject "Scene" fun fields =>
    Scene.mk
      <$> required (.same "id") readFilledText fields
      <*> required (.same "duration") readPositive fields
      <*> optional (.same "mood") readText standardMood fields
      <*> optional ⟨"onScreenText", "on_screen_text"⟩ SceneText.check .blank fields
      <*> optional ⟨"visualDirection", "visual_direction"⟩ readText "" fields
      <*> optional (.same "voiceover") (readNullable readText) none fields

/-- Checks a palette. -/
def Palette.check : Reader Palette :=
  readObject "ColorPalette" fun fields =>
    Palette.mk
      <$> optional (.same "primary") readText Palette.standard.primary fields
      <*> optional (.same "secondary") readText Palette.standard.secondary fields
      <*> optional (.same "accent") readText Palette.standard.accent fields
      <*> optional (.same "background") readText Palette.standard.background fields

/-- How a script is called in reports. -/
def Script.title : String := "Script"

/-- Checks a script. -/
def Script.check : Reader Script :=
  readObject Script.title fun fields =>
    (fun id scenes palette voiceover imagePrompts =>
        (⟨id, scenes.1, palette, voiceover, imagePrompts, scenes.2⟩ : Script))
      <$> optional ⟨"scriptId", "script_id"⟩ readText "" fields
      <*> required (.same "scenes") (readFilledList Scene.check) fields
      <*> optional ⟨"colorPalette", "color_palette"⟩ Palette.check .standard fields
      <*> optional ⟨"voiceoverScript", "voiceover_script"⟩ readText "" fields
      <*> optional ⟨"imagePrompts", "image_prompts"⟩ (readList readText) [] fields

end Storyboard
