import Storyboard.Narration
import Storyboard.Proofs.Reloading
import Storyboard.Proofs.Spellings

/-!
# Scripts and spoken tracks in either spelling

Each record has its form, and its check follows the form. That is shown from the parts to the
whole: the text of a scene before the scene, the scene before the script. A script that is
written under any choice of names is a respelling of its stored form, whose reading is known.
-/

namespace Storyboard

open Checking

def SceneText.form : Form where
  fields := [(.same "headline", Eq), (.same "subhead", Eq),
    (⟨"bulletPoints", "bullet_points"⟩, Eq), (.same "emphasis", Eq)]
  camel := by decide
  apart := by decide

def Scene.form : Form where
  fields := [(.same "id", Eq), (.same "duration", Eq), (.same "mood", Eq),
    (⟨"onScreenText", "on_screen_text"⟩, SceneText.form.Object),
    (⟨"visualDirection", "visual_direction"⟩, Eq), (.same "voiceover", Eq)]
  camel := by decide
  apart := by decide

def Palette.form : Form where
  fields := [(.same "primary", Eq), (.same "secondary", Eq), (.same "accent", Eq),
    (.same "background", Eq)]
  camel := by decide
  apart := by decide

def Script.form : Form where
  fields := [(⟨"scriptId", "script_id"⟩, Eq), (.same "scenes", Relisted Scene.form.Object),
    (⟨"colorPalette", "color_palette"⟩, Palette.form.Object),
    (⟨"voiceoverScript", "voiceover_script"⟩, Eq), (⟨"imagePrompts", "image_prompts"⟩, Eq)]
  camel := by decide
  apart := by decide

def WordTiming.form : Form where
  fields := [(.same "word", Eq), (.same "start", Eq), (.same "end", Eq)]
  camel := by decide
  apart := by decide

def Narration.form : Form where
  fields := [(⟨"audioUrl", "audio_url"⟩, Eq), (.same "duration", Eq),
    (.same "words", Relisted WordTiming.form.Object)]
  camel := by decide
  apart := by decide

theorem SceneText.follows_check : Follows SceneText.check SceneText.form.Object := by
  refine follows_readObject fun origin _ _ h => ?_
  refine .seq (.seq (.seq (.mapped _ ?_) ?_) ?_) ?_
  · exact alike_optional (by simp [SceneText.form]) (follows_eq _) _ origin h
  · exact alike_optional (by simp [SceneText.form]) (follows_eq _) _ origin h
  · exact alike_optional (by simp [SceneText.form]) (follows_eq _) _ origin h
  · exact alike_optional (by simp [SceneText.form]) (follows_eq _) _ origin h

theorem Scene.follows_check : Follows Scene.check Scene.form.Object := by
  refine follows_readObject fun origin _ _ h => ?_
  refine .seq (.seq (.seq (.seq (.seq (.mapped _ ?_) ?_) ?_) ?_) ?_) ?_
  · exact alike_required (by simp [Scene.form]) (follows_eq _) origin h
  · exact alike_required (by simp [Scene.form]) (follows_eq _) origin h
  · exact alike_optional (by simp [Scene.form]) (follows_eq _) _ origin h
  · exact alike_optional (by simp [Scene.form]) SceneText.follows_check _ origin h
  · exact alike_optional (by simp [Scene.form]) (follows_eq _) _ origin h
  · exact alike_optional (by simp [Scene.form]) (follows_eq _) _ origin h

theorem Palette.follows_check : Follows Palette.check Palette.form.Object := by
  refine follows_readObject fun origin _ _ h => ?_
  refine .seq (.seq (.seq (.mapped _ ?_) ?_) ?_) ?_
  · exact alike_optional (by simp [Palette.form]) (follows_eq _) _ origin h
  · exact alike_optional (by simp [Palette.form]) (follows_eq _) _ origin h
  · exact alike_optional (by simp [Palette.form]) (follows_eq _) _ origin h
  · exact alike_optional (by simp [Palette.form]) (follows_eq _) _ origin h

theorem Script.follows_check : Follows Script.check Script.form.Object := by
  have hscenes := follows_readFilledList Scene.follows_check
  refine follows_readObject fun origin _ _ h => ?_
  refine .seq (.seq (.seq (.seq (.mapped _ ?_) ?_) ?_) ?_) ?_
  · exact alike_optional (by simp [Script.form]) (follows_eq _) _ origin h
  · exact alike_required (by simp [Script.form]) hscenes origin h
  · exact alike_optional (by simp [Script.form]) Palette.follows_check _ origin h
  · exact alike_optional (by simp [Script.form]) (follows_eq _) _ origin h
  · exact alike_optional (by simp [Script.form]) (follows_eq _) _ origin h

theorem WordTiming.follows_check : Follows WordTiming.check WordTiming.form.Object := by
  refine follows_readObject fun origin _ _ h => ?_
  refine .seq (.seq (.mapped _ ?_) ?_) ?_
  · exact alike_required (by simp [WordTiming.form]) (follows_eq _) origin h
  · exact alike_required (by simp [WordTiming.form]) (follows_eq _) origin h
  · exact alike_required (by simp [WordTiming.form]) (follows_eq _) origin h

theorem Narration.follows_check : Follows Narration.check Narration.form.Object := by
  have hwords := follows_readList WordTiming.follows_check
  refine follows_readObject fun origin _ _ h => ?_
  refine .seq (.seq (.mapped _ ?_) ?_) ?_
  · exact alike_required (by simp [Narration.form]) (follows_eq _) origin h
  · exact alike_required (by simp [Narration.form]) (follows_eq _) origin h
  · exact alike_optional (by simp [Narration.form]) hwords _ origin h

def SceneText.spelled (spell : Name → String) (text : SceneText) : Json :=
  .object <| spelledEntries spell [
    (.same "headline", .text text.headline),
    (.same "subhead", .text text.subhead),
    (⟨"bulletPoints", "bullet_points"⟩, textList text.bullets),
    (.same "emphasis", textList text.emphasis)]

def Scene.spelled (spell : Name → String) (scene : Scene) : Json :=
  .object <| spelledEntries spell [
    (.same "id", .text scene.id),
    (.same "duration", .float scene.duration),
    (.same "mood", .text scene.mood),
    (⟨"onScreenText", "on_screen_text"⟩, scene.text.spelled spell),
    (⟨"visualDirection", "visual_direction"⟩, .text scene.direction),
    (.same "voiceover", textOrNull scene.voiceover)]

def Palette.spelled (spell : Name → String) (palette : Palette) : Json :=
  .object <| spelledEntries spell [
    (.same "primary", .text palette.primary),
    (.same "secondary", .text palette.secondary),
    (.same "accent", .text palette.accent),
    (.same "background", .text palette.background)]

/-- The fields of a script, each under one of its names. -/
def Script.spelled (spell : Name → String) (script : Script) : Json :=
  .object <| spelledEntries spell [
    (⟨"scriptId", "script_id"⟩, .text script.id),
    (.same "scenes", .list (script.scenes.map (Scene.spelled spell))),
    (⟨"colorPalette", "color_palette"⟩, script.palette.spelled spell),
    (⟨"voiceoverScript", "voiceover_script"⟩, .text script.voiceover),
    (⟨"imagePrompts", "image_prompts"⟩, textList script.imagePrompts)]

section Written

variable {spell other : Name → String}

theorem SceneText.respelled (hspell : Spells spell) (hother : Spells other) (text : SceneText) :
    SceneText.form.Object (text.spelled spell) (text.spelled other) :=
  Form.object_spelled hspell hother (by simp [Form.Value, SceneText.form])

theorem Scene.respelled (hspell : Spells spell) (hother : Spells other) (scene : Scene) :
    Scene.form.Object (scene.spelled spell) (scene.spelled other) :=
  Form.object_spelled hspell hother
    (by simp [Form.Value, Scene.form, SceneText.respelled hspell hother])

theorem Palette.respelled (hspell : Spells spell) (hother : Spells other) (palette : Palette) :
    Palette.form.Object (palette.spelled spell) (palette.spelled other) :=
  Form.object_spelled hspell hother (by simp [Form.Value, Palette.form])

theorem Script.respelled (hspell : Spells spell) (hother : Spells other) (script : Script) :
    Script.form.Object (script.spelled spell) (script.spelled other) := by
  have hscenes : Relisted Scene.form.Object (.list (script.scenes.map (Scene.spelled spell)))
      (.list (script.scenes.map (Scene.spelled other))) := by
    refine .items ?_
    rw [List.forall₂_map_left_iff, List.forall₂_map_right_iff, List.forall₂_same]
    exact fun scene _ => Scene.respelled hspell hother scene
  exact Form.object_spelled hspell hother
    (by simp [Form.Value, Script.form, hscenes, Palette.respelled hspell hother])

end Written

namespace Sample

/-- The script that is written so. -/
def brief : Script :=
  ⟨"s", [⟨"a", 2, standardMood, ⟨"", "", ["one", "two"], []⟩, "", none⟩], .standard, "", [],
    List.cons_ne_nil _ _⟩

end Sample

end Storyboard
