/-!
# Results of operations in steps

An operation in steps comes out well exactly when each of its steps does, and fails with
the failure of the first step that does not. These equivalences take a result apart, step
by step.
-/

namespace Storyboard.Results

theorem bind_ok_iff {x : Except ε α} {f : α → Except ε β} {result : β} :
    x.bind f = .ok result ↔ ∃ value, x = .ok value ∧ f value = .ok result := by
  cases x <;> simp [Except.bind]

theorem map_ok_iff {x : Except ε α} {f : α → β} {result : β} :
    x.map f = .ok result ↔ ∃ value, x = .ok value ∧ f value = result := by
  cases x <;> simp [Except.map]

theorem mapError_ok_iff {x : Except ε α} {f : ε → δ} {result : α} :
    x.mapError f = .ok result ↔ x = .ok result := by
  cases x with
  | ok value =>
    change Except.ok value = .ok result ↔ _
    simp
  | error fault =>
    change Except.error (f fault) = .ok result ↔ _
    simp

theorem bind_error_iff {x : Except ε α} {f : α → Except ε β} {fault : ε} :
    x.bind f = .error fault ↔ x = .error fault ∨ ∃ value, x = .ok value ∧ f value = .error fault := by
  cases x <;> simp [Except.bind]

theorem map_error_iff {x : Except ε α} {f : α → β} {fault : ε} :
    x.map f = .error fault ↔ x = .error fault := by
  cases x <;> simp [Except.map]

theorem mapError_error_iff {x : Except ε α} {f : ε → δ} {fault : δ} :
    x.mapError f = .error fault ↔ ∃ cause, x = .error cause ∧ f cause = fault := by
  cases x with
  | ok value =>
    change Except.ok value = .error fault ↔ _
    simp
  | error cause =>
    change Except.error (f cause) = .error fault ↔ _
    simp

end Storyboard.Results
