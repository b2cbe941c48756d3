import Storyboard.Checking.Issue

/-!
# Checks that collect every issue

A check accepts a value or rejects it with all its issues. Checks of several
parts run side by side: when both of two parts are rejected, the issues of the
first come before those of the second.
-/

namespace Storyboard.Checking

/-- The result of a check. -/
inductive Checked (α : Type) where
  | accepted (value : α)
  | rejected (issues : List Issue)

namespace Checked

/-- Rejects a value for one cause. -/
def reject (cause : Cause) (value : Json) : Checked α := .rejected [⟨[], cause, value⟩]

/-- Applies a function to an accepted value. -/
def map (f : α → β) : Checked α → Checked β
  | accepted value => accepted (f value)
  | rejected issues => rejected issues

/-- Checks a second part beside a first, keeping the issues of both. -/
def beside (first : Checked (α → β)) (second : Checked α) : Checked β :=
  match first, second with
  | accepted f, accepted value => accepted (f value)
  | accepted _, rejected issues => rejected issues
  | rejected issues, accepted _ => rejected issues
  | rejected issues, rejected more => rejected (issues ++ more)

instance : Applicative Checked where
  pure := accepted
  map := map
  seq first second := beside first (second ())

/-- Checks further what was accepted. -/
def andThen (check : Checked α) (next : α → Checked β) : Checked β :=
  match check with
  | accepted value => next value
  | rejected issues => rejected issues

/-- The check of a part, as the check of the whole that holds it. -/
def under (step : Step) : Checked α → Checked α
  | accepted value => accepted value
  | rejected issues => rejected (issues.map (Issue.under step))

/-- The accepted value. -/
def value? : Checked α → Option α
  | accepted value => some value
  | rejected _ => none

/-- All items of a list, each checked at its position from `start` on. -/
def items (check : Json → Checked α) (start : Nat) : List Json → Checked (List α)
  | [] => accepted []
  | item :: rest =>
    beside (map List.cons (under (.index start) (check item))) (items check (start + 1) rest)

@[simp]
theorem beside_accepted (f : α → β) (value : α) :
    beside (accepted f) (accepted value) = accepted (f value) := rfl

theorem beside_eq_accepted_iff {first : Checked (α → β)} {second : Checked α} {result : β} :
    beside first second = accepted result ↔
      ∃ f value, first = accepted f ∧ second = accepted value ∧ f value = result := by
  cases first <;> cases second <;> simp [beside]

theorem map_eq_accepted_iff {f : α → β} {check : Checked α} {result : β} :
    map f check = accepted result ↔ ∃ value, check = accepted value ∧ f value = result := by
  cases check <;> simp [map]

theorem under_eq_accepted_iff {step : Step} {check : Checked α} {result : α} :
    under step check = accepted result ↔ check = accepted result := by
  cases check <;> simp [under]

/-- A list is accepted when each of its items is. -/
theorem items_eq_accepted_iff {check : Json → Checked α} {start : Nat} {inputs : List Json}
    {values : List α} :
    items check start inputs = accepted values ↔ inputs.map check = values.map accepted := by
  induction inputs generalizing start values with
  | nil => cases values <;> simp [items]
  | cons item rest ih =>
    simp only [items, beside_eq_accepted_iff, map_eq_accepted_iff, under_eq_accepted_iff, ih]
    constructor
    · rintro ⟨_, tail, ⟨value, found, rfl⟩, same, rfl⟩
      simp [found, same]
    · intro h
      cases values with
      | nil => simp at h
      | cons value tail =>
        obtain ⟨found, same⟩ := List.cons.inj h
        exact ⟨_, tail, ⟨value, found, rfl⟩, same, rfl⟩

end Checked

end Storyboard.Checking
