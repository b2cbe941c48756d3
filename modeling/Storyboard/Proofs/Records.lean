import Storyboard.Proofs.Keeping
import Storyboard.Proofs.Reloading
import Storyboard.Proofs.Scanning

/-!
# Records of scripts

A script is kept as a text without blanks. Its stored form nests five deep, knows finite doubles
only, and has keys of its own, so its record is strict Json of that form; a record is therefore
read as its stored form is. Only a script with a lone half in a text has no record.
-/

namespace Storyboard

open Checking (Checked)

section Plain

open Json (Plain Entries)

/-- An object is plain by its keys and its values. -/
theorem plain_object {room : ℕ} {entries : Entries} (keys : List String)
    (hkeys : entries.map Prod.fst = keys) (hnodup : keys.Nodup)
    (hascii : (keys.all fun key => key.toList.all fun c => c.toNat < 0x80) = true)
    (h : ∀ value ∈ entries.map Prod.snd, Plain room value) : Plain (room + 1) (.object entries) := by
  subst hkeys
  refine .object hnodup (fun entry hm c hc => ?_) fun entry hm => h entry.2 (List.mem_map_of_mem hm)
  have hkey := List.all_eq_true.mp hascii entry.1 (List.mem_map_of_mem hm)
  exact of_decide_eq_true (List.all_eq_true.mp hkey c hc)

theorem plain_textList (room : ℕ) (texts : List String) : Plain (room + 1) (textList texts) :=
  .list fun item hm => by
    obtain ⟨text, _, rfl⟩ := List.mem_map.mp hm
    exact .text _ _

theorem plain_textOrNull (room : ℕ) (text : Option String) : Plain room (textOrNull text) := by
  cases text with
  | none => exact .null _
  | some text => exact .text _ _

theorem plain_storedNumber (room : ℕ) (x : Float) : Plain room (storedNumber x) := by
  unfold storedNumber
  split
  · next hfinite => exact .float _ hfinite
  · exact .null _

theorem SceneText.plain_body (text : SceneText) : Plain 2 text.body := by
  refine plain_object ["headline", "subhead", "bullet_points", "emphasis"] rfl (by decide)
    (by decide) ?_
  simp only [List.map_cons, List.map_nil, List.forall_mem_cons]
  exact ⟨.text _ _, .text _ _, plain_textList _ _, plain_textList _ _, by simp⟩

theorem Scene.plain_body (scene : Scene) : Plain 3 (scene.body storedNumber) := by
  refine plain_object
    ["id", "duration", "mood", "on_screen_text", "visual_direction", "voiceover"] rfl (by decide)
    (by decide) ?_
  simp only [List.map_cons, List.map_nil, List.forall_mem_cons]
  exact ⟨.text _ _, plain_storedNumber _ _, .text _ _, scene.text.plain_body, .text _ _,
    plain_textOrNull _ _, by simp⟩

theorem Palette.plain_body (room : ℕ) (palette : Palette) : Plain (room + 1) palette.body := by
  refine plain_object ["primary", "secondary", "accent", "background"] rfl (by decide)
    (by decide) ?_
  simp only [List.map_cons, List.map_nil, List.forall_mem_cons]
  exact ⟨.text _ _, .text _ _, .text _ _, .text _ _, by simp⟩

/-- The stored form of a script has room in five lists and objects in each other. -/
theorem Script.plain_stored (script : Script) : Plain 5 script.stored := by
  have hscenes : Plain 4 (.list (script.scenes.map (Scene.body storedNumber))) :=
    .list fun item hm => by
      obtain ⟨scene, _, rfl⟩ := List.mem_map.mp hm
      exact scene.plain_body
  refine plain_object
    ["script_id", "scenes", "color_palette", "voiceover_script", "image_prompts"] rfl (by decide)
    (by decide) ?_
  simp only [List.map_cons, List.map_nil, List.forall_mem_cons]
  exact ⟨.text _ _, hscenes, script.palette.plain_body 3, .text _ _, plain_textList _ _, by simp⟩

end Plain

/-- A script whose texts all have a form in the store. -/
def Script.IsWhole (script : Script) : Prop :=
  ∀ text ∈ script.stored.texts, Text.hasHalf text = false

/-- The record of a script is read as its stored form is. -/
theorem Script.IsWhole.readDocument_record {script : Script} (h : script.IsWhole)
    (reader : Checking.Reader α) :
    Checking.readDocument reader script.record = reader .text script.stored :=
  script.plain_stored.readDocument_compactIn rfl (by decide) (by decide) h reader

/-- The id is the first of the texts, and the others do not depend on it. -/
theorem Script.texts_stored (script : Script) :
    script.stored.texts = script.id :: ({ script with id := "" } : Script).stored.texts.tail :=
  rfl

theorem Script.IsWhole.named {script : Script} (h : script.IsWhole) {id : String}
    (hid : Text.hasHalf id = false) : ({ script with id } : Script).IsWhole := by
  intro text hm
  rw [Script.texts_stored, List.mem_cons] at hm
  rcases hm with rfl | hm
  · exact hid
  · refine h text ?_
    rw [Script.texts_stored]
    exact List.mem_cons_of_mem _ hm

theorem Script.IsWhole.id {script : Script} (h : script.IsWhole) :
    Text.hasHalf script.id = false := by
  refine h script.id ?_
  rw [Script.texts_stored]
  exact List.mem_cons_self

namespace Store

variable {store : Store} {id : String} {script : Script}

theorem write_ok_iff {body : String} :
    write id script = .ok body ↔
      ({ script with id } : Script).IsWhole ∧ body = ({ script with id } : Script).record := by
  rw [write, Script.IsWhole]
  simp only [← Text.encodeFault?_utf8_eq_none_iff, ← List.findSome?_eq_none_iff]
  split
  · next fault hfault => simp [hfault]
  · next hnone => simp [hnone, eq_comm]

/-- What the store reads under the id of a script that it keeps. -/
theorem script?_kept (hs : script.IsSound) (hw : script.IsWhole)
    (hl : store.scripts.lookup id = some script.record) :
    store.script? id =
      if script.lostLengths.isEmpty then .ok (some script)
      else .error (.rejected ⟨Script.title, .text, script.lostLengths⟩) := by
  rw [script?, hl]
  simp only [hw.readDocument_record, Script.check_stored hs, Checked.unless]
  split <;> rfl

end Store

/-- An open desk finds a script whose record is kept under the id of a request. -/
theorem Desk.script_of_record {desk : Desk} {request : Request} {script : Script}
    (hopen : desk.connection.isOpen = true) (hid : Text.hasHalf request.scriptId = false)
    (hl : desk.connection.store.scripts.lookup request.scriptId = some script.record)
    (hs : script.IsSound) (hw : script.IsWhole) (hf : script.lostLengths = []) :
    desk.script request = .ok script := by
  have hfound := Store.script?_kept hs hw hl
  rw [hf] at hfound
  rw [Desk.script, Desk.access_ok_iff.mpr ⟨hopen, rfl⟩]
  simp only [bind, Except.bind, Store.scriptOf?_text hid, hfound]
  rfl

end Storyboard
