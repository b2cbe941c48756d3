import Storyboard.Checking.Report
import Storyboard.Checking.Reader

/-!
# When a check accepts

A check of a record accepts exactly when each of its fields does. These lemmas turn
an accepted record into facts on its fields, one layer at a time.
-/

namespace Storyboard.Checking

theorem seq_eq_accepted_iff {first : Checked (α → β)} {second : Checked α} {result : β} :
    first <*> second = .accepted result ↔
      ∃ f value, first = .accepted f ∧ second = .accepted value ∧ f value = result :=
  Checked.beside_eq_accepted_iff

theorem mapped_eq_accepted_iff {f : α → β} {check : Checked α} {result : β} :
    f <$> check = .accepted result ↔ ∃ value, check = .accepted value ∧ f value = result :=
  Checked.map_eq_accepted_iff

theorem andThen_eq_accepted_iff {check : Checked α} {next : α → Checked β} {result : β} :
    check.andThen next = .accepted result ↔
      ∃ value, check = .accepted value ∧ next value = .accepted result := by
  cases check <;> simp [Checked.andThen]

/-- A value that a rule does not refuse is accepted as it was read. -/
theorem unless_refused_eq_accepted_iff {check : Checked α} {refuses : α → Prop}
    [DecidablePred refuses] {issues : List Issue} {value : α} :
    (check.andThen fun found => if refuses found then .rejected issues else .accepted found) =
      .accepted value ↔ check = .accepted value ∧ ¬ refuses value := by
  rw [andThen_eq_accepted_iff]
  constructor
  · rintro ⟨found, hcheck, hfound⟩
    split at hfound
    · contradiction
    · next hnot =>
      obtain rfl := Checked.accepted.inj hfound
      exact ⟨hcheck, hnot⟩
  · rintro ⟨hcheck, hnot⟩
    exact ⟨value, hcheck, if_neg hnot⟩

section Fields

variable {name : Name} {reader : Reader α} {fields : Fields} {key : String} {input : Json}

theorem required_of_find (h : name.find? fields.entries = some (key, input)) :
    required name reader fields = (reader fields.origin input).under (.key key) := by
  rw [required, h]

theorem optional_of_find {fallback : α} (h : name.find? fields.entries = some (key, input)) :
    Checking.optional name reader fallback fields =
      (reader fields.origin input).under (.key key) := by
  rw [Checking.optional, h]

/-- A field that must be there is accepted when it is there and its value is accepted. -/
theorem required_eq_accepted_iff {value : α} :
    required name reader fields = .accepted value ↔
      ∃ key input, name.find? fields.entries = some (key, input) ∧
        reader fields.origin input = .accepted value := by
  cases h : name.find? fields.entries with
  | none => simp [required, h]
  | some entry =>
    obtain ⟨key, input⟩ := entry
    rw [required_of_find h, Checked.under_eq_accepted_iff]
    constructor
    · intro hv
      exact ⟨key, input, rfl, hv⟩
    · rintro ⟨_, _, he, hv⟩
      obtain ⟨rfl, rfl⟩ := Prod.mk.inj (Option.some.inj he)
      exact hv

/-- What holds of the default and of each value that is read holds of the field. -/
theorem holds_of_optional {P : α → Prop} {fallback value : α}
    (hread : ∀ {origin input value}, reader origin input = .accepted value → P value)
    (hfallback : P fallback)
    (h : Checking.optional name reader fallback fields = .accepted value) : P value := by
  unfold Checking.optional at h
  split at h
  · exact hread (Checked.under_eq_accepted_iff.mp h)
  · obtain rfl := Checked.accepted.inj h
    exact hfallback

end Fields

theorem orReport_eq_ok_iff {title : String} {origin : Origin} {check : Checked α} {value : α} :
    check.orReport title origin = .ok value ↔ check = .accepted value := by
  cases check <;> simp [Checked.orReport]

/-- A filled text has a character, and none of its characters is a lone half. -/
theorem readFilledText_eq_accepted_iff {origin : Origin} {input : Json} {text : String} :
    readFilledText origin input = .accepted text ↔
      input = .text text ∧ Text.hasHalf text = false ∧ text ≠ "" := by
  unfold readFilledText
  split
  · next found =>
    unfold ofText
    by_cases hh : Text.hasHalf found = true
    · simp only [hh, if_true, Checked.reject, reduceCtorEq, Json.text.injEq, false_iff]
      rintro ⟨rfl, hf, _⟩
      rw [hh] at hf
      contradiction
    · by_cases he : found.isEmpty = true
      · simp only [hh, he, Bool.false_eq_true, if_true, if_false, Checked.reject, reduceCtorEq,
          Json.text.injEq, false_iff]
        rintro ⟨rfl, _, hne⟩
        exact hne (by simpa using he)
      · simp only [hh, he, Bool.false_eq_true, if_false, Checked.accepted.injEq, Json.text.injEq]
        constructor
        · rintro rfl
          exact ⟨rfl, by simpa using hh, by simpa using he⟩
        · exact fun h => h.1
  · next h => simpa [Checked.reject] using fun he => absurd he (h text)

theorem readWholeFrom_int {origin : Origin} {bound n : Nat} (h : bound ≤ n) :
    readWholeFrom bound origin (.int n) = .accepted n := by
  have hcast : (bound : Int) ≤ n := by exact_mod_cast h
  simp [readWholeFrom, readWhole, Checked.andThen, hcast]

end Storyboard.Checking
