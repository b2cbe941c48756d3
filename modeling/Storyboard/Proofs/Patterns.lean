import Mathlib.Data.Set.Card
import Storyboard.Text.Pattern

/-!
# What a pattern finds

A pattern fits a text if its parts share the text out among them, in whatever way. The search for
a match gives up a stop only for another one, so it comes out with a match exactly if there is a
way at all. If a mark begins every match and is nowhere else in it, no match hides another, and the
count of matches is the count of places that a match begins at.
-/

namespace Storyboard.Text.Pattern

variable {pattern parts : Pattern} {test : Char → Bool} {before : Option Char} {q c : Char}
  {text span run rest : List Char}

/-- The parts share out `span`, which stands between `before` and `rest`. -/
inductive Fits : Pattern → Option Char → List Char → List Char → Prop
  | nil {before : Option Char} {rest : List Char} : Fits [] before [] rest
  | one {test : Char → Bool} {parts : Pattern} {before : Option Char} {c : Char}
      {span rest : List Char} (hc : test c = true) (h : Fits parts (some c) span rest) :
      Fits (.one test :: parts) before (c :: span) rest
  | most {test : Char → Bool} {parts : Pattern} {before : Option Char} {run span rest : List Char}
      (hrun : ∀ c ∈ run, test c = true) (h : Fits parts (run.getLast?.or before) span rest) :
      Fits (.most test :: parts) before (run ++ span) rest
  | fewest {test : Char → Bool} {parts : Pattern} {before : Option Char}
      {run span rest : List Char} (hrun : ∀ c ∈ run, test c = true)
      (h : Fits parts (run.getLast?.or before) span rest) :
      Fits (.fewest test :: parts) before (run ++ span) rest
  | wordEdge {parts : Pattern} {before : Option Char} {span rest : List Char}
      (he : isWordEdge before (span ++ rest) = true) (h : Fits parts before span rest) :
      Fits (.wordEdge :: parts) before span rest
  | notAfter {c : Char} {parts : Pattern} {before : Option Char} {span rest : List Char}
      (hc : before ≠ some c) (h : Fits parts before span rest) :
      Fits (.notAfter c :: parts) before span rest

section Runs

variable {next : Option Char → List Char → Option (List Char)}

theorem getLast?_cons_or (c : Char) (run : List Char) (before : Option Char) :
    (c :: run).getLast?.or before = run.getLast?.or (some c) := by
  rw [List.getLast?_cons]
  cases run.getLast? <;> rfl

/-- A run and what matches behind it, for any order in which the stops are tried. -/
def Stops (test : Char → Bool) (next : Option Char → List Char → Option (List Char))
    (before : Option Char) (text span : List Char) : Prop :=
  ∃ run tail more, text = run ++ tail ∧ span = run ++ more ∧ (∀ c ∈ run, test c = true) ∧
    next (run.getLast?.or before) tail = some more

theorem Stops.here (h : next before text = some span) : Stops test next before text span :=
  ⟨[], text, span, rfl, rfl, by simp, h⟩

theorem Stops.later (hc : test c = true) (h : Stops test next (some c) rest span) :
    Stops test next before (c :: rest) (c :: span) := by
  obtain ⟨run, tail, more, rfl, rfl, hrun, hnext⟩ := h
  refine ⟨c :: run, tail, more, rfl, rfl, List.forall_mem_cons.mpr ⟨hc, hrun⟩, ?_⟩
  rw [getLast?_cons_or]
  exact hnext

theorem stops_of_longest (h : longest test next before text = some span) :
    Stops test next before text span := by
  induction text generalizing before span with
  | nil => exact .here h
  | cons c rest ih =>
    rw [longest] at h
    split at h
    · next hc =>
      split at h
      · next span' hspan =>
        obtain rfl := Option.some.inj h
        exact .later hc (ih hspan)
      · exact .here h
    · exact .here h

theorem stops_of_shortest (h : shortest test next before text = some span) :
    Stops test next before text span := by
  induction text generalizing before span with
  | nil => exact .here h
  | cons c rest ih =>
    rw [shortest] at h
    split at h
    · next span' hspan =>
      obtain rfl := Option.some.inj h
      exact .here hspan
    · split at h
      · next hc =>
        obtain ⟨span', hspan, rfl⟩ := Option.map_eq_some_iff.mp h
        exact .later hc (ih hspan)
      · cases h

theorem longest_isSome (hrun : ∀ c ∈ run, test c = true)
    (h : (next (run.getLast?.or before) text).isSome = true) :
    (longest test next before (run ++ text)).isSome = true := by
  induction run generalizing before with
  | nil =>
    -- If a longer run leads on, the match is that one.
    cases text with
    | nil => exact h
    | cons c rest =>
      rw [List.nil_append, longest]
      split
      · split
        · rfl
        · exact h
      · exact h
  | cons c run ih =>
    obtain ⟨hc, hrun⟩ := List.forall_mem_cons.mp hrun
    rw [getLast?_cons_or] at h
    obtain ⟨span, hspan⟩ := Option.isSome_iff_exists.mp (ih hrun h)
    rw [List.cons_append, longest, if_pos hc, hspan]
    rfl

theorem shortest_isSome (hrun : ∀ c ∈ run, test c = true)
    (h : (next (run.getLast?.or before) text).isSome = true) :
    (shortest test next before (run ++ text)).isSome = true := by
  induction run generalizing before with
  | nil =>
    obtain ⟨span, hspan⟩ := Option.isSome_iff_exists.mp h
    have hspan : next before text = some span := hspan
    cases text with
    | nil => exact h
    | cons c rest =>
      rw [List.nil_append, shortest, hspan]
      rfl
  | cons c run ih =>
    obtain ⟨hc, hrun⟩ := List.forall_mem_cons.mp hrun
    rw [getLast?_cons_or] at h
    rw [List.cons_append, shortest]
    split
    · rfl
    · rw [if_pos hc, Option.isSome_map]
      exact ih hrun h

variable {closes : List Char → Bool}

theorem upTo?_cons : upTo? closes (c :: rest) =
    if closes (c :: rest) then some [] else (upTo? closes rest).map (c :: ·) := by
  -- What stands before a run has no say in it.
  have hbefore : shortest (fun _ => true) (fun _ rest => if closes rest then some [] else none)
      (some c) rest = upTo? closes rest := by
    cases rest <;> rfl
  rw [upTo?, shortest, hbefore]
  cases closes (c :: rest) <;> rfl

/-- A group that takes as little as it can ends where the text passes the test. -/
theorem closes_of_upTo? (h : upTo? closes text = some run) :
    ∃ rest, text = run ++ rest ∧ closes rest = true := by
  obtain ⟨run, rest, more, rfl, rfl, _, hnext⟩ := stops_of_shortest h
  dsimp only at hnext
  split at hnext
  · next hcloses =>
    obtain rfl := Option.some.inj hnext
    exact ⟨rest, by rw [List.append_nil], hcloses⟩
  · cases hnext

/-- If the text passes the test somewhere, such a group is found. -/
theorem upTo?_isSome (h : closes rest = true) : (upTo? closes (run ++ rest)).isSome = true :=
  shortest_isSome (fun _ _ => rfl) (by rw [if_pos h]; rfl)

end Runs

/-- What is matched fits. -/
theorem fits_of_span? (h : span? pattern before text = some span) :
    ∃ rest, text = span ++ rest ∧ Fits pattern before span rest := by
  induction pattern generalizing before text span with
  | nil =>
    obtain rfl := Option.some.inj h
    exact ⟨text, rfl, .nil⟩
  | cons part parts ih =>
    cases part with
    | one test =>
      cases text with
      | nil => cases h
      | cons c tail =>
        rw [span?] at h
        split at h
        · next hc =>
          obtain ⟨span, hspan, rfl⟩ := Option.map_eq_some_iff.mp h
          obtain ⟨rest, rfl, hfits⟩ := ih hspan
          exact ⟨rest, rfl, .one hc hfits⟩
        · cases h
    | most test =>
      obtain ⟨run, tail, more, rfl, rfl, hrun, hnext⟩ := stops_of_longest h
      obtain ⟨rest, rfl, hfits⟩ := ih hnext
      exact ⟨rest, (List.append_assoc _ _ _).symm, .most hrun hfits⟩
    | fewest test =>
      obtain ⟨run, tail, more, rfl, rfl, hrun, hnext⟩ := stops_of_shortest h
      obtain ⟨rest, rfl, hfits⟩ := ih hnext
      exact ⟨rest, (List.append_assoc _ _ _).symm, .fewest hrun hfits⟩
    | wordEdge =>
      rw [span?] at h
      split at h
      · next he =>
        obtain ⟨rest, rfl, hfits⟩ := ih h
        exact ⟨rest, rfl, .wordEdge he hfits⟩
      · cases h
    | notAfter c =>
      rw [span?] at h
      split at h
      · cases h
      · next hc =>
        obtain ⟨rest, rfl, hfits⟩ := ih h
        exact ⟨rest, rfl, .notAfter hc hfits⟩

/-- Where something fits, the search comes out with a match. -/
theorem Fits.isSome (h : Fits pattern before span rest) :
    (span? pattern before (span ++ rest)).isSome = true := by
  induction h with
  | nil => rfl
  | one hc _ ih =>
    rw [List.cons_append, span?, if_pos hc, Option.isSome_map]
    exact ih
  | most hrun _ ih =>
    rw [List.append_assoc]
    exact longest_isSome hrun ih
  | fewest hrun _ ih =>
    rw [List.append_assoc]
    exact shortest_isSome hrun ih
  | wordEdge he _ ih =>
    rw [span?, if_pos he]
    exact ih
  | notAfter hc _ ih =>
    rw [span?, if_neg hc]
    exact ih

theorem isSome_span?_iff : (span? pattern before text).isSome = true ↔
    ∃ span rest, text = span ++ rest ∧ Fits pattern before span rest := by
  constructor
  · intro h
    obtain ⟨span, hspan⟩ := Option.isSome_iff_exists.mp h
    obtain ⟨rest, htext, hfits⟩ := fits_of_span? hspan
    exact ⟨span, rest, htext, hfits⟩
  · rintro ⟨span, rest, rfl, hfits⟩
    exact hfits.isSome

section Places

/-- The places of a text that satisfy a condition on what begins there. -/
def placesWhere (P : List Char → Prop) (text : List Char) : Set Nat := {place | P (text.drop place)}

theorem finite_placesWhere {P : List Char → Prop} (h : ¬ P []) (text : List Char) :
    (placesWhere P text).Finite := by
  refine (Set.finite_lt_nat text.length).subset fun place hplace => ?_
  by_contra hge
  have hnil : P (text.drop place) := hplace
  rw [List.drop_eq_nil_of_le (Nat.le_of_not_lt hge)] at hnil
  exact h hnil

theorem placesWhere_cons_of_pos {P : List Char → Prop} (h : P (c :: rest)) :
    placesWhere P (c :: rest) = insert 0 (Nat.succ '' placesWhere P rest) := by
  ext place
  cases place with
  | zero => simpa [placesWhere] using h
  | succ place => simp [placesWhere]

theorem placesWhere_cons_of_neg {P : List Char → Prop} (h : ¬ P (c :: rest)) :
    placesWhere P (c :: rest) = Nat.succ '' placesWhere P rest := by
  ext place
  cases place with
  | zero => simpa [placesWhere] using h
  | succ place => simp [placesWhere]

theorem ncard_succ_image (places : Set Nat) : (Nat.succ '' places).ncard = places.ncard :=
  Set.ncard_image_of_injective places Nat.succ_injective

theorem ncard_placesWhere_cons_of_pos {P : List Char → Prop} (hnil : ¬ P []) (h : P (c :: rest)) :
    (placesWhere P (c :: rest)).ncard = (placesWhere P rest).ncard + 1 := by
  rw [placesWhere_cons_of_pos h, Set.ncard_insert_of_notMem (by simp)
    ((finite_placesWhere hnil rest).image _), ncard_succ_image]

theorem ncard_placesWhere_cons_of_neg {P : List Char → Prop} (h : ¬ P (c :: rest)) :
    (placesWhere P (c :: rest)).ncard = (placesWhere P rest).ncard := by
  rw [placesWhere_cons_of_neg h, ncard_succ_image]

end Places

/-- The pattern matches at the head of the text, wherever that stands. -/
def Begins (pattern : Pattern) (text : List Char) : Prop :=
  (span? pattern none text).isSome = true

/-- Every match begins with `q` and has it nowhere else, and the character before the match does
not matter. -/
structure MarkedBy (pattern : Pattern) (q : Char) : Prop where
  alike : ∀ before text, span? pattern before text = span? pattern none text
  marked : ∀ {before span rest}, Fits pattern before span rest → ∃ more, span = q :: more ∧ q ∉ more

theorem MarkedBy.not_begins_nil (h : pattern.MarkedBy q) : ¬ pattern.Begins [] := by
  intro hbegins
  obtain ⟨span, rest, hnil, hfits⟩ := isSome_span?_iff.mp hbegins
  obtain ⟨more, rfl, _⟩ := h.marked hfits
  cases hnil

theorem MarkedBy.not_begins (h : pattern.MarkedBy q) (hc : c ≠ q) :
    ¬ pattern.Begins (c :: rest) := by
  intro hbegins
  obtain ⟨span, tail, htext, hfits⟩ := isSome_span?_iff.mp hbegins
  obtain ⟨more, rfl, _⟩ := h.marked hfits
  exact hc (List.cons.inj htext).1

/-- The search misses no place: what it skips begins no match. -/
theorem MarkedBy.countFrom_eq (h : pattern.MarkedBy q) (skip : Nat) (before : Option Char)
    (text : List Char) (hskip : q ∉ text.take skip) :
    pattern.countFrom skip before text = (placesWhere pattern.Begins text).ncard := by
  induction text generalizing skip before with
  | nil =>
    have hempty : placesWhere pattern.Begins [] = ∅ := by
      ext place
      simpa [placesWhere] using h.not_begins_nil
    rw [hempty, Set.ncard_empty, countFrom]
  | cons c rest ih =>
    cases skip with
    | succ skip =>
      rw [List.take_succ_cons, List.mem_cons, not_or] at hskip
      rw [countFrom, ncard_placesWhere_cons_of_neg (h.not_begins (Ne.symm hskip.1))]
      exact ih skip (some c) hskip.2
    | zero =>
      rw [countFrom, h.alike before]
      cases hspan : span? pattern none (c :: rest) with
      | none =>
        have hnot : ¬ pattern.Begins (c :: rest) := by simp [Begins, hspan]
        rw [ncard_placesWhere_cons_of_neg hnot]
        exact ih 0 (some c) (by simp)
      | some span =>
        have hbegins : pattern.Begins (c :: rest) := by simp [Begins, hspan]
        obtain ⟨tail, htext, hfits⟩ := fits_of_span? hspan
        obtain ⟨more, rfl, hmore⟩ := h.marked hfits
        rw [List.cons_append] at htext
        obtain ⟨_, rfl⟩ := List.cons.inj htext
        dsimp only
        rw [ncard_placesWhere_cons_of_pos h.not_begins_nil hbegins,
          ih _ (some c) (by simpa using hmore)]

theorem MarkedBy.count_eq (h : pattern.MarkedBy q) (text : List Char) :
    pattern.count text = (placesWhere pattern.Begins text).ncard :=
  h.countFrom_eq 0 none text (by simp)

/-- A match that could begin somewhere is found, or one before it that covers its place. -/
theorem count_pos {head tail : List Char} (hne : tail ≠ [])
    (h : ∀ before, (span? pattern before tail).isSome = true) :
    0 < pattern.count (head ++ tail) := by
  have hfrom (before : Option Char) : 0 < pattern.countFrom 0 before (head ++ tail) := by
    induction head generalizing before with
    | nil =>
      obtain ⟨span, hspan⟩ := Option.isSome_iff_exists.mp (h before)
      cases tail with
      | nil => contradiction
      | cons c tail =>
        rw [List.nil_append, countFrom, hspan]
        exact Nat.succ_pos _
    | cons c head ih =>
      rw [List.cons_append, countFrom]
      split
      · exact Nat.succ_pos _
      · exact ih (some c)
  exact hfrom none

end Storyboard.Text.Pattern
