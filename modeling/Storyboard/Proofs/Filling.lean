import Storyboard.Environment.File

/-!
# What filling in leaves

Each assignment of a file names another variable, so what becomes of a variable depends on
its own assignment alone. The induction is on the assignments that are left. A variable
that was written just now does not occur among them, and keeps its text to the end.
-/

namespace Storyboard

namespace Keyed

theorem nodup_put {entries : List (String × α)} (h : (entries.map Prod.fst).Nodup) (key : String)
    (value : α) : ((put key value entries).map Prod.fst).Nodup := by
  rw [keys_put]
  by_cases hk : key ∈ entries.map Prod.fst
  · rwa [if_pos hk]
  · rw [if_neg hk, List.nodup_append]
    refine ⟨h, by simp, ?_⟩
    rintro first hfirst second hsecond rfl
    rw [List.mem_singleton] at hsecond
    subst hsecond
    exact hk hfirst

/-- The keys of a map differ from each other. -/
theorem nodup_ofPairs (pairs : List (String × α)) : ((ofPairs pairs).map Prod.fst).Nodup := by
  have hfold (entries : List (String × α)) (h : (entries.map Prod.fst).Nodup) :
      ((pairs.foldl (fun entries pair => put pair.1 pair.2 entries) entries).map
        Prod.fst).Nodup := by
    induction pairs generalizing entries with
    | nil => exact h
    | cons pair pairs ih => exact ih _ (nodup_put h pair.1 pair.2)
  exact hfold [] List.nodup_nil

end Keyed

namespace Environment

variable {environment assignments : Environment} {name : String}

/-- The assignments that a file holds, none when there is no file. -/
def assignmentsOf (file : Option String) : Environment := (file.map readAssignments).getD []

theorem nodup_assignmentsOf (file : Option String) :
    ((assignmentsOf file).map Prod.fst).Nodup := by
  cases file with
  | none => exact List.nodup_nil
  | some content => exact Keyed.nodup_ofPairs _

theorem lacks_congr {other : Environment} (h : other.lookup name = environment.lookup name) :
    other.lacks name = environment.lacks name := by
  rw [lacks, lacks, h]

theorem fill_kept {value : String} (h : environment.lacks name = false) :
    environment.fill ((name, value) :: assignments) = environment.fill assignments := by
  rw [fill, h]
  rfl

/-- Filling in that did not stop at a variable that was lacking has written it. -/
theorem fill_written {value : String} (h : environment.lacks name = true)
    (hs : (environment.fill ((name, value) :: assignments)).stopped = false) :
    (fill (Keyed.put name value environment) assignments).stopped = false ∧
    (environment.fill ((name, value) :: assignments)).environment =
      (fill (Keyed.put name value environment) assignments).environment := by
  have hlacks : ¬ (!environment.lacks name) = true := by simp [h]
  rw [fill, if_neg hlacks] at hs ⊢
  split at hs
  · contradiction
  · next hnul =>
    rw [if_neg hnul]
    exact ⟨hs, rfl⟩

/-- A variable that is lacking takes the text of its assignment, if there is one. -/
theorem lookup_fill (hkeys : (assignments.map Prod.fst).Nodup)
    (h : (environment.fill assignments).stopped = false) (name : String) :
    (environment.fill assignments).environment.lookup name =
      if environment.lacks name then (assignments.lookup name).or (environment.lookup name)
      else environment.lookup name := by
  induction assignments generalizing environment with
  | nil => simp [fill]
  | cons assignment rest ih =>
    obtain ⟨key, value⟩ := assignment
    obtain ⟨hnew, hrest⟩ := List.nodup_cons.mp hkeys
    cases hl : environment.lacks key with
    | false =>
      rw [fill_kept hl] at h ⊢
      rw [ih hrest h]
      by_cases hname : name = key
      · subst hname
        simp [hl]
      · rw [List.lookup_cons, beq_false_of_ne hname]
    | true =>
      obtain ⟨hstopped, hwritten⟩ := fill_written hl h
      rw [hwritten, ih hrest hstopped, Keyed.lookup_put]
      by_cases hname : name = key
      -- The variable was written, and no later assignment names it.
      · subst hname
        have hnone : rest.lookup name = none := by
          rw [List.lookup_eq_none_iff]
          intro entry hm
          have hne : entry.1 ≠ name := fun he => hnew (List.mem_map.mpr ⟨entry, hm, he⟩)
          simpa using hne.symm
        simp [hl, hnone]
      · have hsame : lacks (Keyed.put key value environment) name =
            environment.lacks name := by
          apply lacks_congr
          rw [Keyed.lookup_put, if_neg hname]
        rw [if_neg hname, hsame, List.lookup_cons, beq_false_of_ne hname]

/-- The text of a variable after filling in, empty when it has none. -/
def remaining (environment assignments : Environment) (name : String) : String :=
  if environment.lacks name then assignments.valueOr name (environment.valueOr name "")
  else environment.valueOr name ""

theorem valueOr_fill (hkeys : (assignments.map Prod.fst).Nodup)
    (h : (environment.fill assignments).stopped = false) (name : String) :
    (environment.fill assignments).environment.valueOr name "" =
      environment.remaining assignments name := by
  rw [valueOr, lookup_fill hkeys h, remaining]
  by_cases hl : environment.lacks name = true
  · rw [if_pos hl, if_pos hl, valueOr, valueOr]
    cases assignments.lookup name <;> rfl
  · rw [if_neg hl, if_neg hl, valueOr]

theorem isPlaceholder_of_lacks (h : environment.lacks name = true) :
    isPlaceholder name (environment.valueOr name "") = true := by
  rw [lacks] at h
  rw [valueOr]
  cases hc : environment.lookup name with
  | none => rfl
  | some current =>
    rw [hc] at h
    exact h

/-- A variable that neither side gives a text of its own has none afterwards. -/
theorem isPlaceholder_remaining (h : environment.lacks name = true)
    (ha : assignments.lacks name = true) :
    isPlaceholder name (environment.remaining assignments name) = true := by
  rw [remaining, if_pos h, valueOr]
  rw [lacks] at ha
  cases hc : assignments.lookup name with
  | none => exact isPlaceholder_of_lacks h
  | some current =>
    rw [hc] at ha
    exact ha

end Environment

end Storyboard
