import Storyboard.Proofs.Checks
import Storyboard.Script.Body
import Storyboard.Script.Check

/-!
# Reading a stored script

The stored form of a script has every field under its inner name, so no default comes in
when it is read again, and each field is read as it was written. The lengths of scenes are
the exception: the stored form knows no infinite number, and a scene of infinite length is
reported as having none. The count of the scenes before runs along with the induction.
-/

namespace Storyboard

open Checking

namespace Checking

theorem readList_textList (origin : Origin) (texts : List String) :
    readList readText origin (textList texts) = .accepted texts := by
  refine Checked.items_eq_accepted_iff.mpr ?_
  rw [List.map_map]
  rfl

theorem readNullable_textOrNull (origin : Origin) (text : Option String) :
    readNullable readText origin (textOrNull text) = .accepted text := by
  cases text <;> rfl

theorem readFilledList_of_items {item : Reader α} {origin : Origin} {inputs : List Json}
    {values : List α} (h : Checked.items (item origin) 0 inputs = .accepted values)
    (hfilled : values ≠ []) :
    readFilledList item origin (.list inputs) = .accepted ⟨values, hfilled⟩ := by
  have hlist : readList item origin (.list inputs) = .accepted values := h
  rw [readFilledList, hlist, Checked.andThen]
  cases values with
  | nil => contradiction
  | cons first rest => rfl

theorem forall_of_readFilledList {item : Reader α} {property : α → Prop} {origin : Origin}
    {input : Json} {values : Filled α}
    (hitem : ∀ input value, item origin input = .accepted value → property value)
    (h : readFilledList item origin input = .accepted values) :
    ∀ value ∈ values.1, property value := by
  unfold readFilledList at h
  cases hlist : readList item origin input with
  | rejected issues =>
    rw [hlist] at h
    contradiction
  | accepted found =>
    rw [hlist, Checked.andThen] at h
    split at h
    · contradiction
    · obtain rfl := Checked.accepted.inj h
      cases input with
      | list inputs =>
        have hsame := Checked.items_eq_accepted_iff.mp hlist
        intro value hm
        have hmem : Checked.accepted value ∈ inputs.map (item origin) := by
          rw [hsame]
          exact List.mem_map_of_mem hm
        obtain ⟨input, _, hinput⟩ := List.mem_map.mp hmem
        exact hitem input value hinput
      | _ => contradiction

/-- A positive number is finite unless it is infinite: it is a number. -/
theorem isFinite_of_pos {x : Float} (h : 0 < x) : x.isFinite = !x.isInf := by
  have hlt : (0 : Float).toModel.unpack.lt x.toModel.unpack = true := of_decide_eq_true h
  change x.toModel.unpack.isFinite = !x.toModel.unpack.isInf
  cases hx : x.toModel.unpack with
  | notANumber =>
    rw [hx] at hlt
    cases hz : (0 : Float).toModel.unpack <;> rw [hz] at hlt <;> contradiction
  | infinity | zero | finite => rfl

end Checking

/-- What a check of a scene makes sure of. -/
structure Scene.IsSound (scene : Scene) : Prop where
  whole : Text.hasHalf scene.id = false
  named : scene.id ≠ ""
  lasts : 0 < scene.duration

/-- What a check of a script makes sure of. -/
def Script.IsSound (script : Script) : Prop := ∀ scene ∈ script.scenes, scene.IsSound

theorem Scene.sound_of_check {origin : Origin} {input : Json} {scene : Scene}
    (h : Scene.check origin input = .accepted scene) : scene.IsSound := by
  cases input with
  | object entries =>
    obtain ⟨_, _, hdirection, _, rfl⟩ := seq_eq_accepted_iff.mp h
    obtain ⟨_, _, htext, _, rfl⟩ := seq_eq_accepted_iff.mp hdirection
    obtain ⟨_, _, hmood, _, rfl⟩ := seq_eq_accepted_iff.mp htext
    obtain ⟨_, _, hduration, _, rfl⟩ := seq_eq_accepted_iff.mp hmood
    obtain ⟨_, duration, hid, hlength, rfl⟩ := seq_eq_accepted_iff.mp hduration
    obtain ⟨id, hname, rfl⟩ := mapped_eq_accepted_iff.mp hid
    obtain ⟨_, _, _, hfilled⟩ := required_eq_accepted_iff.mp hname
    obtain ⟨_, hwhole, hnamed⟩ := readFilledText_eq_accepted_iff.mp hfilled
    obtain ⟨_, length, _, hpositive⟩ := required_eq_accepted_iff.mp hlength
    refine ⟨hwhole, hnamed, ?_⟩
    change 0 < duration
    rw [readPositive] at hpositive
    cases hread : readDouble _ length with
    | rejected issues =>
      rw [hread] at hpositive
      contradiction
    | accepted x =>
      rw [hread, Checked.andThen] at hpositive
      split at hpositive
      · next hlt =>
        obtain rfl := Checked.accepted.inj hpositive
        exact hlt
      · contradiction
  | _ => contradiction

theorem Script.sound_of_check {origin : Origin} {input : Json} {script : Script}
    (h : Script.check origin input = .accepted script) : script.IsSound := by
  cases input with
  | object entries =>
    obtain ⟨_, _, hvoiceover, _, rfl⟩ := seq_eq_accepted_iff.mp h
    obtain ⟨_, _, hpalette, _, rfl⟩ := seq_eq_accepted_iff.mp hvoiceover
    obtain ⟨_, _, hscenes, _, rfl⟩ := seq_eq_accepted_iff.mp hpalette
    obtain ⟨_, scenes, hid, hlist, rfl⟩ := seq_eq_accepted_iff.mp hscenes
    obtain ⟨_, _, rfl⟩ := mapped_eq_accepted_iff.mp hid
    obtain ⟨_, _, _, hfilled⟩ := required_eq_accepted_iff.mp hlist
    exact forall_of_readFilledList (fun _ _ => Scene.sound_of_check) hfilled
  | _ => contradiction

theorem SceneText.check_body (origin : Origin) (text : SceneText) :
    SceneText.check origin text.body = .accepted text := by
  let fields : Fields := ⟨origin, [("headline", .text text.headline),
    ("subhead", .text text.subhead), ("bullet_points", textList text.bullets),
    ("emphasis", textList text.emphasis)]⟩
  have hbullets : Checking.optional ⟨"bulletPoints", "bullet_points"⟩ (readList readText) []
      fields = .accepted text.bullets :=
    congrArg (Checked.under (.key "bullet_points")) (readList_textList origin text.bullets)
  have hemphasis : Checking.optional (.same "emphasis") (readList readText) [] fields =
      .accepted text.emphasis :=
    congrArg (Checked.under (.key "emphasis")) (readList_textList origin text.emphasis)
  change (SceneText.mk
    <$> Checking.optional (.same "headline") readText "" fields
    <*> Checking.optional (.same "subhead") readText "" fields
    <*> Checking.optional ⟨"bulletPoints", "bullet_points"⟩ (readList readText) [] fields
    <*> Checking.optional (.same "emphasis") (readList readText) [] fields) = _
  rw [hbullets, hemphasis]
  rfl

/-- The issues of scenes of infinite length, in a list of scenes numbered from `start` on. -/
def lostLengths (start : Nat) (scenes : List Scene) : List Issue :=
  (scenes.zipIdx start).filterMap fun entry =>
    if entry.1.duration.isInf then some ⟨[.index entry.2, .key "duration"], .notNumber, .null⟩
    else none

/-- The issues of the scenes whose length the stored form of a script has lost. -/
def Script.lostLengths (script : Script) : List Issue :=
  script.scenes.zipIdx.filterMap fun entry =>
    if entry.1.duration.isInf then
      some ⟨[.key "scenes", .index entry.2, .key "duration"], .notNumber, .null⟩
    else none

/-- The values, unless there are issues. -/
def Checking.Checked.unless (issues : List Issue) (value : α) : Checked α :=
  if issues.isEmpty then .accepted value else .rejected issues

/-- A stored length is read as it was, unless it is infinite. -/
theorem readPositive_stored {x : Float} (h : 0 < x) :
    readPositive .text (storedNumber x) =
      if x.isInf then .reject .notNumber .null else .accepted x := by
  have hfinite := isFinite_of_pos h
  rw [storedNumber]
  cases hinf : x.isInf with
  | true =>
    rw [hinf] at hfinite
    rw [hfinite]
    rfl
  | false =>
    rw [hinf] at hfinite
    rw [hfinite]
    change (if 0 < x then Checked.accepted x else _) = _
    rw [if_pos h]
    rfl

/-- A written scene is read as it was, but for its length, which is what its number is read as. -/
theorem Scene.check_body {scene : Scene} (h : scene.IsSound) (origin : Origin)
    (number : Float → Json) :
    Scene.check origin (scene.body number) =
      (fun duration => { scene with duration }) <$>
        (readPositive origin (number scene.duration)).under (.key "duration") := by
  let fields : Fields := ⟨origin, [("id", .text scene.id),
    ("duration", number scene.duration), ("mood", .text scene.mood),
    ("on_screen_text", scene.text.body), ("visual_direction", .text scene.direction),
    ("voiceover", textOrNull scene.voiceover)]⟩
  have hid : required (.same "id") readFilledText fields = .accepted scene.id := by
    rw [required_of_find rfl, readFilledText_eq_accepted_iff.mpr ⟨rfl, h.whole, h.named⟩]
    rfl
  have hlength : required (.same "duration") readPositive fields =
      (readPositive origin (number scene.duration)).under (.key "duration") := rfl
  have htext : Checking.optional ⟨"onScreenText", "on_screen_text"⟩ SceneText.check .blank
      fields = .accepted scene.text :=
    congrArg (Checked.under (.key "on_screen_text")) (SceneText.check_body origin scene.text)
  have hvoiceover : Checking.optional (.same "voiceover") (readNullable readText) none fields =
      .accepted scene.voiceover :=
    congrArg (Checked.under (.key "voiceover")) (readNullable_textOrNull origin scene.voiceover)
  change (Scene.mk
    <$> required (.same "id") readFilledText fields
    <*> required (.same "duration") readPositive fields
    <*> Checking.optional (.same "mood") readText standardMood fields
    <*> Checking.optional ⟨"onScreenText", "on_screen_text"⟩ SceneText.check .blank fields
    <*> Checking.optional ⟨"visualDirection", "visual_direction"⟩ readText "" fields
    <*> Checking.optional (.same "voiceover") (readNullable readText) none fields) = _
  rw [hid, hlength, htext, hvoiceover]
  cases readPositive origin (number scene.duration) <;> rfl

theorem Scene.check_stored {scene : Scene} (h : scene.IsSound) :
    Scene.check .text (scene.body storedNumber) =
      if scene.duration.isInf then .rejected [⟨[.key "duration"], .notNumber, .null⟩]
      else .accepted scene := by
  rw [Scene.check_body h, readPositive_stored h.lasts]
  cases scene.duration.isInf <;> rfl

theorem items_stored {scenes : List Scene} (h : ∀ scene ∈ scenes, scene.IsSound) (start : Nat) :
    Checked.items (Scene.check .text) start (scenes.map (Scene.body storedNumber)) =
      Checked.unless (lostLengths start scenes) scenes := by
  induction scenes generalizing start with
  | nil => rfl
  | cons scene rest ih =>
    rw [List.forall_mem_cons] at h
    rw [List.map_cons, Checked.items, ih h.2, Scene.check_stored h.1]
    cases hinf : scene.duration.isInf with
    | true =>
      have hlost : lostLengths start (scene :: rest) =
          ⟨[.index start, .key "duration"], .notNumber, .null⟩ :: lostLengths (start + 1) rest := by
        simp [lostLengths, List.zipIdx_cons, hinf]
      rw [hlost]
      cases lostLengths (start + 1) rest <;> rfl
    | false =>
      have hlost : lostLengths start (scene :: rest) = lostLengths (start + 1) rest := by
        simp [lostLengths, List.zipIdx_cons, hinf]
      rw [hlost]
      cases lostLengths (start + 1) rest <;> rfl

theorem Script.lostLengths_eq (script : Script) :
    (Storyboard.lostLengths 0 script.scenes).map (Issue.under (.key "scenes")) =
      script.lostLengths := by
  rw [Storyboard.lostLengths, List.map_filterMap, Script.lostLengths]
  congr 1
  funext entry
  cases entry.1.duration.isInf <;> rfl

theorem Script.lostLengths_eq_nil_iff {script : Script} :
    script.lostLengths = [] ↔ ∀ scene ∈ script.scenes, scene.duration.isInf = false := by
  have hscenes : script.scenes.zipIdx.map Prod.fst = script.scenes := List.zipIdx_map_fst 0 _
  rw [Script.lostLengths, List.filterMap_eq_nil_iff]
  constructor
  · intro h scene hm
    rw [← hscenes] at hm
    obtain ⟨entry, hentry, rfl⟩ := List.mem_map.mp hm
    simpa using h entry hentry
  · intro h entry hentry
    have hm : entry.1 ∈ script.scenes.zipIdx.map Prod.fst := List.mem_map_of_mem hentry
    rw [hscenes] at hm
    simp [h entry.1 hm]

/-- A written script is read as it was, but for its scenes. -/
theorem Script.check_body (origin : Origin) (number : Float → Json) (script : Script) :
    Script.check origin (script.body number) =
      (fun scenes => { script with scenes := scenes.1, filled := scenes.2 }) <$>
        (readFilledList Scene.check origin
          (.list (script.scenes.map (Scene.body number)))).under (.key "scenes") := by
  let fields : Fields := ⟨origin, [("script_id", .text script.id),
    ("scenes", .list (script.scenes.map (Scene.body number))),
    ("color_palette", script.palette.body), ("voiceover_script", .text script.voiceover),
    ("image_prompts", textList script.imagePrompts)]⟩
  have hscenes : required (.same "scenes") (readFilledList Scene.check) fields =
      (readFilledList Scene.check origin
        (.list (script.scenes.map (Scene.body number)))).under (.key "scenes") := rfl
  have hprompts : Checking.optional ⟨"imagePrompts", "image_prompts"⟩ (readList readText) []
      fields = .accepted script.imagePrompts :=
    congrArg (Checked.under (.key "image_prompts")) (readList_textList origin script.imagePrompts)
  change ((fun id scenes palette voiceover imagePrompts =>
      (⟨id, scenes.1, palette, voiceover, imagePrompts, scenes.2⟩ : Script))
    <$> Checking.optional ⟨"scriptId", "script_id"⟩ readText "" fields
    <*> required (.same "scenes") (readFilledList Scene.check) fields
    <*> Checking.optional ⟨"colorPalette", "color_palette"⟩ Palette.check .standard fields
    <*> Checking.optional ⟨"voiceoverScript", "voiceover_script"⟩ readText "" fields
    <*> Checking.optional ⟨"imagePrompts", "image_prompts"⟩ (readList readText) [] fields) = _
  rw [hscenes, hprompts]
  cases readFilledList Scene.check origin (.list (script.scenes.map (Scene.body number))) <;> rfl

/-- A stored script is read as it was, unless it has scenes of infinite length; then the issues
name the lengths of these scenes. -/
theorem Script.check_stored {script : Script} (h : script.IsSound) :
    Script.check .text script.stored = Checked.unless script.lostLengths script := by
  have hitems := items_stored h 0
  rw [Script.stored, Script.check_body, ← Script.lostLengths_eq]
  cases hlost : Storyboard.lostLengths 0 script.scenes with
  | nil =>
    rw [hlost] at hitems
    rw [readFilledList_of_items hitems script.filled]
    rfl
  | cons issue rest =>
    have hlist : readList Scene.check .text (.list (script.scenes.map (Scene.body storedNumber))) =
        .rejected (issue :: rest) := by
      rw [hlost] at hitems
      exact hitems
    rw [readFilledList, hlist]
    rfl

end Storyboard
