import Mathlib.Algebra.BigOperators.Group.List.Basic
import Mathlib.Algebra.Ring.Int.Defs
import Storyboard.Proofs.Results
import Storyboard.Timeline

/-!
# The timeline is a tiling

Segments that are laid out lie end to end from the first frame on, and each has a frame at
least. The invariant carries the number and the first frame of the segment that comes next,
as the recursion that lays them out does.
-/

namespace Storyboard

open Results (bind_ok_iff map_ok_iff)

theorem Scene.frames_pos {scene : Scene} {fps frames : Int}
    (h : scene.frames fps = .ok frames) : 1 ≤ frames := by
  obtain ⟨nearest, _, rfl⟩ := map_ok_iff.mp h
  exact Int.le_max_left 1 nearest

/-- Segments from a number and a frame on, each at the end of the one before. -/
def Tiled (index : Nat) (start : Int) : List Segment → Prop
  | [] => True
  | segment :: rest =>
    segment.index = index ∧ segment.start = start ∧ 1 ≤ segment.frames ∧
      segment.isLast = rest.isEmpty ∧ Tiled (index + 1) (start + segment.frames) rest

theorem tiled_of_layOut {fps start : Int} {index : Nat} {scenes : List Scene}
    {segments : List Segment} (h : layOut fps index start scenes = .ok segments) :
    Tiled index start segments ∧ segments.map Segment.scene = scenes := by
  induction scenes generalizing index start segments with
  | nil =>
    obtain rfl := Except.ok.inj h
    exact ⟨trivial, rfl⟩
  | cons scene rest ih =>
    obtain ⟨frames, hframes, hrest⟩ := bind_ok_iff.mp h
    obtain ⟨later, hlater, he⟩ := bind_ok_iff.mp hrest
    obtain rfl := Except.ok.inj he
    obtain ⟨htiled, hscenes⟩ := ih hlater
    have hlast : rest.isEmpty = later.isEmpty := by rw [← hscenes, List.isEmpty_map]
    refine ⟨⟨rfl, rfl, Scene.frames_pos hframes, hlast, htiled⟩, ?_⟩
    rw [List.map_cons, hscenes]

theorem totalFrames_eq_sum (segments : List Segment) :
    totalFrames segments = (segments.map Segment.frames).sum := by
  rw [totalFrames, ← List.foldl_map, List.sum_eq_foldl]

theorem totalFrames_cons (segment : Segment) (rest : List Segment) :
    totalFrames (segment :: rest) = segment.frames + totalFrames rest := by
  rw [totalFrames_eq_sum, totalFrames_eq_sum, List.map_cons, List.sum_cons]

theorem totalFrames_nonneg {segments : List Segment}
    (h : ∀ segment ∈ segments, 1 ≤ segment.frames) : 0 ≤ totalFrames segments := by
  induction segments with
  | nil => decide
  | cons segment rest ih =>
    rw [List.forall_mem_cons] at h
    have hrest := ih h.2
    have hfirst := h.1
    rw [totalFrames_cons]
    omega

namespace Tiled

variable {index : Nat} {start : Int} {segments : List Segment}

theorem index_getElem (h : Tiled index start segments) (i : Nat) (hi : i < segments.length) :
    segments[i].index = index + i := by
  induction segments generalizing index start i with
  | nil => contradiction
  | cons segment rest ih =>
    obtain ⟨hindex, _, _, _, hrest⟩ := h
    cases i with
    | zero => exact hindex
    | succ i =>
      have hi' : i < rest.length := Nat.lt_of_succ_lt_succ hi
      rw [List.getElem_cons_succ, ih hrest i hi']
      omega

theorem isLast_getElem (h : Tiled index start segments) (i : Nat) (hi : i < segments.length) :
    segments[i].isLast = true ↔ i + 1 = segments.length := by
  induction segments generalizing index start i with
  | nil => contradiction
  | cons segment rest ih =>
    obtain ⟨_, _, _, hlast, hrest⟩ := h
    cases i with
    | zero =>
      rw [List.getElem_cons_zero, hlast, List.isEmpty_iff, List.length_cons]
      constructor
      · rintro rfl
        rfl
      · intro hlen
        exact List.length_eq_zero_iff.mp (by omega)
    | succ i =>
      have hi' : i < rest.length := Nat.lt_of_succ_lt_succ hi
      rw [List.getElem_cons_succ, ih hrest i hi', List.length_cons]
      omega

theorem start_next (h : Tiled index start segments) (i : Nat) (hi : i + 1 < segments.length) :
    segments[i + 1].start = segments[i].finish := by
  induction segments generalizing index start i with
  | nil => contradiction
  | cons segment rest ih =>
    obtain ⟨_, hstart, _, _, hrest⟩ := h
    have hi' : i < rest.length := Nat.lt_of_succ_lt_succ hi
    cases i with
    | zero =>
      cases rest with
      | nil => contradiction
      | cons next rest =>
        have hnext : next.start = start + segment.frames := hrest.2.1
        change next.start = segment.start + segment.frames
        rw [hnext, hstart]
    | succ i => exact ih hrest i hi'

/-- No segment begins before the first one, and each has a frame. -/
theorem bounds (h : Tiled index start segments) :
    ∀ segment ∈ segments, start ≤ segment.start ∧ 1 ≤ segment.frames := by
  induction segments generalizing index start with
  | nil => simp
  | cons segment rest ih =>
    obtain ⟨_, hstart, hframes, _, hrest⟩ := h
    intro other hm
    rcases List.mem_cons.mp hm with rfl | hm
    · exact ⟨Int.le_of_eq hstart.symm, hframes⟩
    · have hother := ih hrest other hm
      exact ⟨by omega, hother.2⟩

/-- Each frame of the timeline lies in exactly one segment. -/
theorem existsUnique (h : Tiled index start segments) {t : Int} (hle : start ≤ t)
    (hlt : t < start + totalFrames segments) :
    ∃! segment, segment ∈ segments ∧ segment.start ≤ t ∧ t < segment.finish := by
  induction segments generalizing index start with
  | nil =>
    have hzero : totalFrames [] = 0 := rfl
    omega
  | cons segment rest ih =>
    obtain ⟨_, hstart, _, _, hrest⟩ := h
    rw [totalFrames_cons] at hlt
    by_cases hin : t < start + segment.frames
    -- Here the segment shows; the later ones begin after it.
    · refine ⟨segment, ⟨List.mem_cons_self, ?_, ?_⟩, ?_⟩
      · omega
      · change t < segment.start + segment.frames
        omega
      · rintro other ⟨hm, hbegin, _⟩
        rcases List.mem_cons.mp hm with rfl | hm
        · rfl
        · have hlater := (hrest.bounds other hm).1
          omega
    · obtain ⟨shown, ⟨hm, hbegin, hend⟩, hunique⟩ := ih hrest (by omega) (by omega)
      refine ⟨shown, ⟨List.mem_cons_of_mem _ hm, hbegin, hend⟩, ?_⟩
      rintro other ⟨hmother, hbegin', hend'⟩
      rcases List.mem_cons.mp hmother with rfl | hmother
      · change t < other.start + other.frames at hend'
        omega
      · exact hunique other ⟨hmother, hbegin', hend'⟩

end Tiled

/-- Segments that carry these scenes lie end to end from frame zero on. -/
structure Tiling (scenes : List Scene) (segments : List Segment) : Prop where
  scenes : segments.map Segment.scene = scenes
  index : ∀ i (h : i < segments.length), segments[i].index = i
  positive : ∀ segment ∈ segments, 1 ≤ segment.frames
  first : ∀ h : 0 < segments.length, segments[0].start = 0
  next : ∀ i (h : i + 1 < segments.length), segments[i + 1].start = segments[i].finish
  total : totalFrames segments = (segments.map Segment.frames).sum
  once : ∀ t, 0 ≤ t → t < totalFrames segments →
    ∃! segment, segment ∈ segments ∧ segment.start ≤ t ∧ t < segment.finish
  last : ∀ i (h : i < segments.length), segments[i].isLast = true ↔ i + 1 = segments.length

theorem Script.timeline_tiling {script : Script} {fps : Int} {segments : List Segment}
    (h : script.timeline fps = .ok segments) : Tiling script.scenes segments := by
  obtain ⟨htiled, hscenes⟩ := tiled_of_layOut h
  refine ⟨hscenes, fun i hi => ?_, fun segment hm => (htiled.bounds segment hm).2,
    fun hpos => ?_, htiled.start_next, totalFrames_eq_sum segments, fun t hle hlt => ?_,
    htiled.isLast_getElem⟩
  · rw [htiled.index_getElem i hi, Nat.zero_add]
  · cases segments with
    | nil => contradiction
    | cons segment rest => exact htiled.2.1
  · exact htiled.existsUnique hle (by omega)

end Storyboard
