import Storyboard.Proofs.Delivery
import Storyboard.Proofs.Tiling

/-!
# The slots of the prompt beside the timeline

The prompt and the template lay out the same scenes by two recursions. Both round the length
of a scene to frames, but the timeline gives a scene one frame at least, and the prompt may
give it none. Each frame that the timeline adds moves all later scenes by one. So the two
agree on a script exactly when none of its scenes rounds to nothing.
-/

namespace Storyboard

open Prompt (Slot)
open Results (bind_ok_iff map_ok_iff)

/-- The frame at which a slot starts, and its count of frames. -/
def Prompt.Slot.place (slot : Slot) : Int × Int := (slot.start, slot.frames)

/-- The frame at which a segment starts, and its count of frames. -/
def Segment.place (segment : Segment) : Int × Int := (segment.start, segment.frames)

/-- The frames that a slot lacks to be as long as its segment. -/
def Prompt.Slot.lack (slot : Slot) : Int := max 1 slot.frames - slot.frames

/-- The frames that slots lack together. -/
def Prompt.lack (slots : List Slot) : Int := (slots.map Slot.lack).sum

/-- Segments of the scenes of these slots, when the ones before took `shift` frames more. -/
def Segment.Follow (shift : Int) : List Slot → List Segment → Prop
  | [], [] => True
  | slot :: slots, segment :: segments =>
    segment.scene = slot.scene ∧ segment.place = (slot.start + shift, max 1 slot.frames) ∧
      Segment.Follow (shift + slot.lack) slots segments
  | _, _ => False

theorem Prompt.Slot.lack_eq_zero_iff {slot : Slot} : slot.lack = 0 ↔ 1 ≤ slot.frames := by
  unfold Slot.lack
  omega

/-- The two recursions side by side. The start of the timeline's rest is that of the prompt's
rest, moved by what the slots so far lack. -/
theorem follow_of_layOut {fps start shift : Int} {index : Nat} {scenes : List Scene}
    {slots : List Slot} {segments : List Segment}
    (hslots : Prompt.slots fps start scenes = .ok slots)
    (hsegments : layOut fps index (start + shift) scenes = .ok segments) :
    Segment.Follow shift slots segments := by
  induction scenes generalizing start shift index slots segments with
  | nil =>
    obtain rfl := Except.ok.inj hslots
    obtain rfl := Except.ok.inj hsegments
    exact trivial
  | cons scene scenes ih =>
    obtain ⟨frames, hframes, hlater⟩ := bind_ok_iff.mp hslots
    obtain ⟨later, hrest, he⟩ := bind_ok_iff.mp hlater
    obtain rfl := Except.ok.inj he
    obtain ⟨count, hcount, hlater'⟩ := bind_ok_iff.mp hsegments
    obtain ⟨later', hrest', he'⟩ := bind_ok_iff.mp hlater'
    obtain rfl := Except.ok.inj he'
    obtain ⟨nearest, hnearest, rfl⟩ := map_ok_iff.mp hcount
    obtain rfl := Except.ok.inj (hnearest.symm.trans hframes)
    have hstart : start + shift + max 1 nearest =
        start + nearest + (shift + Slot.lack ⟨scene, start, nearest⟩) := by
      simp only [Slot.lack]
      omega
    rw [hstart] at hrest'
    exact ⟨rfl, rfl, ih hrest hrest'⟩

namespace Segment.Follow

variable {shift : Int} {slots : List Slot} {segments : List Segment}

theorem scenes_eq (h : Follow shift slots segments) :
    segments.map Segment.scene = slots.map Slot.scene := by
  induction slots generalizing shift segments with
  | nil =>
    cases segments with
    | nil => rfl
    | cons => contradiction
  | cons slot slots ih =>
    cases segments with
    | nil => contradiction
    | cons segment segments => rw [List.map_cons, List.map_cons, h.1, ih h.2.2]

/-- A segment starts where its slot does, moved by what the earlier slots lack. -/
theorem place_getElem (h : Follow shift slots segments) (i : Nat) (hi : i < slots.length)
    (hi' : i < segments.length) :
    segments[i].place =
      (slots[i].start + shift + Prompt.lack (slots.take i), max 1 slots[i].frames) := by
  induction slots generalizing shift segments i with
  | nil => contradiction
  | cons slot slots ih =>
    cases segments with
    | nil => contradiction
    | cons segment segments =>
      cases i with
      | zero =>
        change segment.place = (slot.start + shift + 0, max 1 slot.frames)
        rw [h.2.1, Int.add_zero]
      | succ i =>
        have hl : i < slots.length := Nat.lt_of_succ_lt_succ hi
        have hl' : i < segments.length := Nat.lt_of_succ_lt_succ hi'
        have hsum : Prompt.lack ((slot :: slots).take (i + 1)) =
            slot.lack + Prompt.lack (slots.take i) := by
          simp only [Prompt.lack, List.take_succ_cons, List.map_cons, List.sum_cons]
        rw [List.getElem_cons_succ, List.getElem_cons_succ, ih h.2.2 i hl hl', hsum]
        congr 1
        omega

/-- Where each slot has a frame, nothing moves. -/
theorem places_eq (h : Follow 0 slots segments) (hpos : ∀ slot ∈ slots, 1 ≤ slot.frames) :
    slots.map Slot.place = segments.map Segment.place := by
  induction slots generalizing segments with
  | nil =>
    cases segments with
    | nil => rfl
    | cons => contradiction
  | cons slot slots ih =>
    cases segments with
    | nil => contradiction
    | cons segment segments =>
      rw [List.forall_mem_cons] at hpos
      obtain ⟨_, hplace, hrest⟩ := h
      rw [Slot.lack_eq_zero_iff.mpr hpos.1] at hrest
      have hhead : slot.place = segment.place := by
        have hmax : max 1 slot.frames = slot.frames := Int.max_eq_right hpos.1
        rw [hplace, hmax, Int.add_zero]
        rfl
      rw [List.map_cons, List.map_cons, hhead, ih hrest hpos.2]

/-- A segment has a frame, so a slot in the same place has one. -/
theorem positive_of_places (h : Follow shift slots segments)
    (he : slots.map Slot.place = segments.map Segment.place) :
    ∀ slot ∈ slots, 1 ≤ slot.frames := by
  induction slots generalizing shift segments with
  | nil => simp
  | cons slot slots ih =>
    cases segments with
    | nil => contradiction
    | cons segment segments =>
      obtain ⟨_, hplace, hrest⟩ := h
      obtain ⟨hhead, htail⟩ := List.cons.inj he
      rw [hplace] at hhead
      have hframes : slot.frames = max 1 slot.frames := congrArg Prod.snd hhead
      rw [List.forall_mem_cons]
      exact ⟨by omega, ih hrest htail⟩

end Segment.Follow

/-- The lines of these slots are those of the section on the scenes. -/
def Prompt.Shows (text : String) (slots : List Slot) : Prop :=
  ∃ before after,
    text = String.intercalate "\n" (before ++ "## SCENES" :: slots.flatMap Slot.lines ++ after)

/-- What a prompt and a timeline of the same script have to do with each other. -/
structure SideBySide (brief : Prompt.Brief) (text : String) (slots : List Slot)
    (segments : List Segment) : Prop where
  shown : Prompt.Shows text slots
  laid : Prompt.slots brief.fps 0 brief.script.scenes = .ok slots
  timeline : brief.script.timeline brief.fps = .ok segments
  scenes : segments.map Segment.scene = slots.map Slot.scene
  place : ∀ i (h : i < slots.length) (h' : i < segments.length), segments[i].place =
    (slots[i].start + Prompt.lack (slots.take i), max 1 slots[i].frames)
  agree : slots.map Slot.place = segments.map Segment.place ↔ ∀ slot ∈ slots, 1 ≤ slot.frames

theorem Prompt.shows_of_user {brief : Prompt.Brief} {text : String}
    (h : Prompt.user brief = .ok text) :
    ∃ slots, Prompt.slots brief.fps 0 brief.script.scenes = .ok slots ∧
      Prompt.Shows text slots := by
  obtain ⟨specs, _, hscenes⟩ := bind_ok_iff.mp h
  obtain ⟨scenes, hs, hnarration⟩ := bind_ok_iff.mp hscenes
  obtain ⟨narration, _, htext⟩ := bind_ok_iff.mp hnarration
  obtain ⟨slots, hslots, hlines⟩ := bind_ok_iff.mp hs
  obtain rfl := Except.ok.inj hlines
  obtain rfl := Except.ok.inj htext
  have hassoc (shown images audio asked : List String) :
      shown ++ images ++ audio ++ asked = shown ++ (images ++ audio ++ asked) := by
    simp only [List.append_assoc]
  exact ⟨slots, hslots, _, _, congrArg (String.intercalate "\n") (hassoc _ _ _ _)⟩

/-- A script with a prompt has a timeline. The prompt asks for the places that the timeline
has if and only if it gives each scene a frame. -/
theorem prompt_beside_timeline {brief : Prompt.Brief} {text : String}
    (h : Prompt.user brief = .ok text) :
    ∃ slots segments, SideBySide brief text slots segments := by
  obtain ⟨slots, hslots, hshown⟩ := Prompt.shows_of_user h
  obtain ⟨segments, hsegments⟩ := exists_layOut hslots 0 0
  have hfollow : Segment.Follow 0 slots segments := follow_of_layOut hslots hsegments
  refine ⟨slots, segments, hshown, hslots, hsegments, hfollow.scenes_eq,
    fun i hi hi' => ?_, hfollow.positive_of_places, hfollow.places_eq⟩
  rw [hfollow.place_getElem i hi hi', Int.add_zero]

namespace Sample

/-- A scene too short for a frame, and one of a second. -/
def flicker : Prompt.Brief :=
  let scenes : List Scene := [⟨"a", 0.01, standardMood, .blank, "", none⟩,
    ⟨"b", 1, standardMood, .blank, "", none⟩]
  ⟨{ script with scenes, filled := List.cons_ne_nil _ _ }, [], none, 31, frameRate, (Canvas.ofRatio Canvas.standardRatio).1⟩

end Sample

/-- The prompt gives the short scene no frame and starts the other one with it; the timeline
gives it one, and starts the other one after it. -/
theorem flicker_beside_timeline : ∃ text slots segments,
    Prompt.user Sample.flicker = .ok text ∧ SideBySide Sample.flicker text slots segments ∧
      slots.map Slot.place = [(0, 0), (0, 30)] ∧
      segments.map Segment.place = [(0, 1), (1, 30)] := by
  have htext : ∃ text, Prompt.user Sample.flicker = .ok text := ⟨_, rfl⟩
  obtain ⟨text, htext⟩ := htext
  obtain ⟨slots, segments, hside⟩ := prompt_beside_timeline htext
  have hprompt : (Prompt.slots frameRate 0 Sample.flicker.script.scenes).map
      (List.map Slot.place) = .ok [(0, 0), (0, 30)] := rfl
  have htimeline : (Sample.flicker.script.timeline frameRate).map
      (List.map Segment.place) = .ok [(0, 1), (1, 30)] := rfl
  obtain ⟨_, hslots, hplaces⟩ := map_ok_iff.mp hprompt
  obtain ⟨_, hsegments, hplaces'⟩ := map_ok_iff.mp htimeline
  obtain rfl := Except.ok.inj (hside.laid.symm.trans hslots)
  obtain rfl := Except.ok.inj (hside.timeline.symm.trans hsegments)
  exact ⟨text, slots, segments, htext, hside, hplaces, hplaces'⟩

end Storyboard
