import Storyboard.Job.Request
import Storyboard.Proofs.Mentions
import Storyboard.Script.Check

/-!
# What checks complain about

An issue is quiet if the names in its path and the wording of its cause have none of the words that
a category goes by. A check is quiet if all issues it can come to are. Checks are put together from
smaller ones, and so is this property: it is enough to look at the causes that a reader gives and
at the names of the fields.
-/

namespace Storyboard

open Checking

namespace Checking

/-- What stands before the shown value in the line on a cause. -/
def Cause.opening (cause : Cause) : List Char :=
  "  ".toList ++ ((cause.message .value).toList ++
    (" [type=".toList ++ (cause.code.toList ++ ", input_value".toList)))

def Cause.isQuiet (cause : Cause) : Bool := isMute cause.opening

/-- The causes that the readers of scripts and requests give. -/
def quietCauses : List Cause := [
  .missing, .notText, .brokenText, .emptyText, .notNumber, .badNumeral, .notAbove 0, .below 0,
  .notList, .emptyList, .notObject "OnScreenText", .notObject "Scene", .notObject "ColorPalette",
  .notObject Script.title, .notObject Revision.title, .notObject "WordTimestamp",
  .notObject Narration.title]

-- In one table: a call of the kernel waits for all that was added before it.
theorem isQuiet_quietCauses : ∀ cause ∈ quietCauses, cause.isQuiet = true := by decide +kernel

/-- An issue that has no word of a category but in the value it shows and in positions. -/
structure Issue.IsQuiet (issue : Issue) : Prop where
  cause : issue.cause.isQuiet = true
  names : ∀ name, .key name ∈ issue.path → isMute name.toList = true

/-- All issues of the check are quiet. -/
def Checked.Quiet (check : Checked α) : Prop :=
  ∀ issues, check = .rejected issues → ∀ issue ∈ issues, issue.IsQuiet

namespace Checked

variable {check : Checked α} {cause : Cause} {value : Json}

theorem Quiet.accepted (value : α) : Quiet (.accepted value) := by
  intro issues h
  cases h

theorem Quiet.reject (h : cause ∈ quietCauses) (value : Json) :
    Quiet (.reject cause value : Checked α) := by
  intro issues hi issue hm
  obtain rfl := Checked.rejected.inj hi
  obtain rfl := List.mem_singleton.mp hm
  exact ⟨isQuiet_quietCauses _ h, by simp⟩

theorem Quiet.beside {first : Checked (α → β)} {second : Checked α} (h : first.Quiet)
    (h' : second.Quiet) : (Checked.beside first second).Quiet := by
  intro issues hi issue hm
  cases first with
  | accepted f =>
    cases second with
    | accepted value => cases hi
    | rejected more =>
      obtain rfl := Checked.rejected.inj hi
      exact h' _ rfl issue hm
  | rejected found =>
    cases second with
    | accepted value =>
      obtain rfl := Checked.rejected.inj hi
      exact h _ rfl issue hm
    | rejected more =>
      obtain rfl := Checked.rejected.inj hi
      rcases List.mem_append.mp hm with hm | hm
      · exact h _ rfl issue hm
      · exact h' _ rfl issue hm

theorem Quiet.seq {first : Checked (α → β)} {second : Checked α} (h : first.Quiet)
    (h' : second.Quiet) : (first <*> second).Quiet := h.beside h'

theorem Quiet.map (f : α → β) (h : check.Quiet) : (Checked.map f check).Quiet := by
  intro issues hi
  cases check with
  | accepted value => cases hi
  | rejected found =>
    obtain rfl := Checked.rejected.inj hi
    exact h _ rfl

theorem Quiet.mapped (f : α → β) (h : check.Quiet) : (f <$> check).Quiet := h.map f

theorem Quiet.andThen {next : α → Checked β} (h : check.Quiet)
    (hnext : ∀ value, (next value).Quiet) : (check.andThen next).Quiet := by
  cases check with
  | accepted value => exact hnext value
  | rejected found =>
    intro issues hi
    obtain rfl := Checked.rejected.inj hi
    exact h _ rfl

theorem Quiet.under {step : Step} (hstep : ∀ name, step = .key name → isMute name.toList = true)
    (h : check.Quiet) : (check.under step).Quiet := by
  intro issues hi issue hm
  cases check with
  | accepted value => cases hi
  | rejected found =>
    obtain rfl := Checked.rejected.inj hi
    obtain ⟨inner, hinner, rfl⟩ := List.mem_map.mp hm
    obtain ⟨hcause, hnames⟩ := h _ rfl inner hinner
    refine ⟨hcause, fun name hname => ?_⟩
    rcases List.mem_cons.mp hname with hname | hname
    · exact hstep name hname.symm
    · exact hnames name hname

theorem Quiet.items {check : Json → Checked α} (h : ∀ input, (check input).Quiet) (start : Nat)
    (inputs : List Json) : (Checked.items check start inputs).Quiet := by
  induction inputs generalizing start with
  | nil => exact .accepted []
  | cons input inputs ih =>
    have hitem : ((check input).under (.index start)).Quiet :=
      (h input).under fun name hname => nomatch hname
    exact (hitem.map List.cons).beside (ih (start + 1))

end Checked

section Readers

variable {reader : Reader α}

/-- Whatever the reader is given, its issues are quiet. -/
def IsQuiet (reader : Reader α) : Prop := ∀ origin input, (reader origin input).Quiet

theorem quiet_readText : IsQuiet readText := by
  intro origin input
  unfold readText
  split
  · exact .accepted _
  · exact .reject (by simp [quietCauses]) input

theorem quiet_ofText {read : String → Checked α} (h : ∀ text, (read text).Quiet) (text : String) :
    (ofText read text).Quiet := by
  unfold ofText
  split
  · exact .reject (by simp [quietCauses]) _
  · exact h text

theorem quiet_readFilledText : IsQuiet readFilledText := by
  intro origin input
  unfold readFilledText
  split
  · refine quiet_ofText (fun text => ?_) _
    split
    · exact .reject (by simp [quietCauses]) _
    · exact .accepted _
  · exact .reject (by simp [quietCauses]) input

theorem quiet_readDouble : IsQuiet readDouble := by
  intro origin input
  unfold readDouble
  split
  · exact .accepted _
  · exact .accepted _
  · unfold doubleOfWhole
    split
    · exact .accepted _
    · exact .reject (by simp [quietCauses]) _
    · exact .accepted _
  · refine quiet_ofText (fun text => ?_) _
    split
    · exact .accepted _
    · exact .reject (by simp [quietCauses]) _
  · exact .reject (by simp [quietCauses]) input

theorem quiet_readPositive : IsQuiet readPositive := by
  intro origin input
  refine (quiet_readDouble origin input).andThen fun x => ?_
  split
  · exact .accepted x
  · exact .reject (by simp [quietCauses]) input

theorem quiet_readNonNegative : IsQuiet readNonNegative := by
  intro origin input
  refine (quiet_readDouble origin input).andThen fun x => ?_
  split
  · exact .accepted x
  · exact .reject (by simp [quietCauses]) input

theorem quiet_readList (h : IsQuiet reader) : IsQuiet (readList reader) := by
  intro origin input
  unfold readList
  split
  · exact .items (h origin) 0 _
  · exact .reject (by simp [quietCauses]) input

theorem quiet_readFilledList (h : IsQuiet reader) : IsQuiet (readFilledList reader) := by
  intro origin input
  refine (quiet_readList h origin input).andThen fun items => ?_
  cases items with
  | nil => exact .reject (by simp [quietCauses]) input
  | cons first rest => exact .accepted _

theorem quiet_readNullable (h : IsQuiet reader) : IsQuiet (readNullable reader) := by
  intro origin input
  unfold readNullable
  split
  · exact .accepted none
  · exact (h origin input).map some

theorem quiet_readObject {title : String} {read : Fields → Checked α}
    (ht : .notObject title ∈ quietCauses) (h : ∀ fields, (read fields).Quiet) :
    IsQuiet (readObject title read) := by
  intro origin input
  unfold readObject
  split
  · exact h _
  · exact .reject ht input

end Readers

section Fields

variable {reader : Reader α} {name : Name} {fields : Fields}

/-- The fields of scripts and requests. -/
def quietNames : List Name := [
  .same "headline", .same "subhead", ⟨"bulletPoints", "bullet_points"⟩, .same "emphasis",
  .same "id", .same "duration", .same "mood", ⟨"onScreenText", "on_screen_text"⟩,
  ⟨"visualDirection", "visual_direction"⟩, .same "voiceover", .same "primary", .same "secondary",
  .same "accent", .same "background", ⟨"scriptId", "script_id"⟩, .same "scenes",
  ⟨"colorPalette", "color_palette"⟩, ⟨"voiceoverScript", "voiceover_script"⟩,
  ⟨"imagePrompts", "image_prompts"⟩, .same "previous_code", .same "feedback", .same "word",
  .same "start", .same "end", ⟨"audioUrl", "audio_url"⟩, .same "words", .same "job_id",
  .same "script_id", .same "image_urls", .same "aspect_ratio", .same "target_duration"]

theorem isMute_quietNames : ∀ name ∈ quietNames,
    isMute name.outer.toList = true ∧ isMute name.inner.toList = true := by
  simp only [quietNames, List.forall_mem_cons, Name.same, String.reduceToList]
  decide +kernel

theorem isMute_of_find? (hn : name ∈ quietNames) {entries : Json.Entries} {key : String}
    {value : Json} (h : name.find? entries = some (key, value)) : isMute key.toList = true := by
  obtain ⟨houter, hinner⟩ := isMute_quietNames name hn
  unfold Name.find? at h
  split at h
  · obtain ⟨rfl, _⟩ := Prod.mk.inj (Option.some.inj h)
    exact houter
  · obtain ⟨value, _, hentry⟩ := Option.map_eq_some_iff.mp h
    obtain ⟨rfl, _⟩ := Prod.mk.inj hentry
    exact hinner

theorem quiet_found (hn : name ∈ quietNames) (h : IsQuiet reader) {key : String} {value : Json}
    (hf : name.find? fields.entries = some (key, value)) :
    ((reader fields.origin value).under (.key key)).Quiet := by
  refine (h fields.origin value).under fun other hother => ?_
  obtain rfl := Step.key.inj hother
  exact isMute_of_find? hn hf

theorem quiet_required (hn : name ∈ quietNames) (h : IsQuiet reader) (fields : Fields) :
    (required name reader fields).Quiet := by
  unfold required
  split
  · next hf => exact quiet_found hn h hf
  · intro issues hi issue hm
    obtain rfl := Checked.rejected.inj hi
    obtain rfl := List.mem_singleton.mp hm
    refine ⟨isQuiet_quietCauses _ (by simp [quietCauses]), fun other hother => ?_⟩
    obtain rfl := Step.key.inj (List.mem_singleton.mp hother)
    exact (isMute_quietNames name hn).1

theorem quiet_optional (hn : name ∈ quietNames) (h : IsQuiet reader) (fallback : α)
    (fields : Fields) : (Checking.optional name reader fallback fields).Quiet := by
  unfold Checking.optional
  split
  · next hf => exact quiet_found hn h hf
  · exact .accepted fallback

end Fields

end Checking

theorem SceneText.quiet_check : IsQuiet SceneText.check := by
  refine quiet_readObject (by simp [quietCauses]) fun fields => ?_
  refine .seq (.seq (.seq (.mapped _ ?_) ?_) ?_) ?_
  · exact quiet_optional (by simp [quietNames]) quiet_readText _ fields
  · exact quiet_optional (by simp [quietNames]) quiet_readText _ fields
  · exact quiet_optional (by simp [quietNames]) (quiet_readList quiet_readText) _ fields
  · exact quiet_optional (by simp [quietNames]) (quiet_readList quiet_readText) _ fields

theorem Scene.quiet_check : IsQuiet Scene.check := by
  refine quiet_readObject (by simp [quietCauses]) fun fields => ?_
  refine .seq (.seq (.seq (.seq (.seq (.mapped _ ?_) ?_) ?_) ?_) ?_) ?_
  · exact quiet_required (by simp [quietNames]) quiet_readFilledText fields
  · exact quiet_required (by simp [quietNames]) quiet_readPositive fields
  · exact quiet_optional (by simp [quietNames]) quiet_readText _ fields
  · exact quiet_optional (by simp [quietNames]) SceneText.quiet_check _ fields
  · exact quiet_optional (by simp [quietNames]) quiet_readText _ fields
  · exact quiet_optional (by simp [quietNames]) (quiet_readNullable quiet_readText) _ fields

theorem Palette.quiet_check : IsQuiet Palette.check := by
  refine quiet_readObject (by simp [quietCauses]) fun fields => ?_
  refine .seq (.seq (.seq (.mapped _ ?_) ?_) ?_) ?_
  · exact quiet_optional (by simp [quietNames]) quiet_readText _ fields
  · exact quiet_optional (by simp [quietNames]) quiet_readText _ fields
  · exact quiet_optional (by simp [quietNames]) quiet_readText _ fields
  · exact quiet_optional (by simp [quietNames]) quiet_readText _ fields

theorem Script.quiet_check : IsQuiet Script.check := by
  refine quiet_readObject (by simp [quietCauses]) fun fields => ?_
  refine .seq (.seq (.seq (.seq (.mapped _ ?_) ?_) ?_) ?_) ?_
  · exact quiet_optional (by simp [quietNames]) quiet_readText _ fields
  · exact quiet_required (by simp [quietNames]) (quiet_readFilledList Scene.quiet_check) fields
  · exact quiet_optional (by simp [quietNames]) Palette.quiet_check _ fields
  · exact quiet_optional (by simp [quietNames]) quiet_readText _ fields
  · exact quiet_optional (by simp [quietNames]) (quiet_readList quiet_readText) _ fields

theorem Revision.quiet_check : IsQuiet Revision.check := by
  refine quiet_readObject (by simp [quietCauses]) fun fields => ?_
  refine .seq (.mapped _ ?_) ?_
  · exact quiet_required (by simp [quietNames]) quiet_readFilledText fields
  · exact quiet_required (by simp [quietNames]) quiet_readFilledText fields

theorem WordTiming.quiet_check : IsQuiet WordTiming.check := by
  refine quiet_readObject (by simp [quietCauses]) fun fields => ?_
  refine .seq (.seq (.mapped _ ?_) ?_) ?_
  · exact quiet_required (by simp [quietNames]) quiet_readText fields
  · exact quiet_required (by simp [quietNames]) quiet_readNonNegative fields
  · exact quiet_required (by simp [quietNames]) quiet_readNonNegative fields

theorem Narration.quiet_check : IsQuiet Narration.check := by
  refine quiet_readObject (by simp [quietCauses]) fun fields => ?_
  refine .seq (.seq (.mapped _ ?_) ?_) ?_
  · exact quiet_required (by simp [quietNames]) quiet_readFilledText fields
  · exact quiet_required (by simp [quietNames]) quiet_readNonNegative fields
  · exact quiet_optional (by simp [quietNames]) (quiet_readList WordTiming.quiet_check) _ fields

/-- With narration and revision accepted, the other fields of a request are left to check. -/
theorem Request.quiet_checkFields (track : Option Narration) (revision : Option Revision)
    (fields : Fields) :
    (Request.checkFields (.accepted track) (.accepted revision) fields).Quiet := by
  refine .seq (.seq (.seq (.seq (.seq (.seq (.mapped _ ?_) ?_) ?_) ?_) ?_) ?_) ?_
  · exact quiet_required (by simp [quietNames]) quiet_readFilledText fields
  · exact quiet_required (by simp [quietNames]) quiet_readFilledText fields
  · exact quiet_optional (by simp [quietNames]) (quiet_readList quiet_readText) _ fields
  · exact .accepted track
  · exact quiet_optional (by simp [quietNames]) quiet_readText _ fields
  · exact quiet_required (by simp [quietNames]) quiet_readPositive fields
  · exact .accepted revision

end Storyboard
