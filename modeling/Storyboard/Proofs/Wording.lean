import Storyboard.Job.Generation
import Storyboard.Proofs.Results

/-!
# Every failure has words

What is told of a failure is never empty. A failure of the program has a fixed wording
around its data; one from outside may tell an empty message, and then the name of its kind
stands in. One from outside may also tell nothing; a failure of the program always tells,
and so what fails before anything is asked of the outside fails with a message.
-/

namespace Storyboard

namespace Failure

end Failure

/-- If an operation fails, its failure tells its message. -/
def FailsTelling (result : Except Failure α) : Prop :=
  ∀ failure, result = .error failure → failure.Tells

namespace FailsTelling

variable {result : Except Failure α} {next : α → Except Failure β}

theorem ok (value : α) : FailsTelling (.ok value) := fun _ h => by contradiction

theorem error {failure : Failure} (h : failure.Tells) :
    FailsTelling (.error failure : Except Failure α) := by
  intro other he
  rwa [← Except.error.inj he]

theorem bind (h : FailsTelling result) (hnext : ∀ value, FailsTelling (next value)) :
    FailsTelling (result.bind next) := by
  cases result with
  | ok value => exact hnext value
  | error failure => exact error (h failure rfl)

theorem map (h : FailsTelling result) (f : α → β) : FailsTelling (result.map f) := by
  cases result with
  | ok value => exact ok (f value)
  | error failure => exact error (h failure rfl)

/-- A failure that is made from another one tells if all that are made so do. -/
theorem mapError {result : Except ε α} {f : ε → Failure} (h : ∀ fault, (f fault).Tells) :
    FailsTelling (result.mapError f) := by
  cases result with
  | ok value => exact ok value
  | error fault => exact error (h fault)

theorem ite {condition : Prop} [Decidable condition] {other : Except Failure α}
    (h : FailsTelling result) (h' : FailsTelling other) :
    FailsTelling (if condition then result else other) := by
  split
  · exact h
  · exact h'

theorem forM {values : List α} {each : α → Except Failure Unit}
    (h : ∀ value, FailsTelling (each value)) : FailsTelling (values.forM each) := by
  induction values with
  | nil => exact ok ()
  | cons value values ih => exact (h value).bind fun _ => ih

end FailsTelling

namespace Model

open OpenRouter (checkText writeBody dial)

theorem OpenRouter.checkText_tells (encoding : Text.Encoding) (text : String) :
    FailsTelling (checkText encoding text) := by
  unfold checkText
  split
  · exact .error ⟨_, rfl⟩
  · exact .ok ()

/-- A request that cannot be written is not sent, and its failure tells why. -/
theorem OpenRouter.dial_tells (url : String) (headers : List (String × String))
    (question : Question) : FailsTelling (dial url headers question) := by
  have hread : FailsTelling ((Address.read url).mapError Failure.address) :=
    .mapError fun _ => ⟨_, rfl⟩
  have hheaders : FailsTelling (headers.forM fun header => checkText .ascii header.2) :=
    .forM fun _ => checkText_tells _ _
  have hbody : ∀ value, FailsTelling (writeBody value) := fun value =>
    .ite ((checkText_tells _ _).map _) (.error ⟨_, rfl⟩)
  exact hread.bind fun _ => hheaders.bind fun _ => (hbody _).bind fun _ =>
    (checkText_tells _ _).bind fun _ => .ok _

theorem Gemini.checkLimits_tells (question : Question) :
    FailsTelling (Gemini.checkLimits question) := by
  have hrejected : ∀ report, (Failure.rejected report).Tells := fun _ => ⟨_, rfl⟩
  exact (FailsTelling.mapError hrejected).map _

theorem requireKey_tells (settings : Settings) : FailsTelling settings.requireKey := by
  unfold Settings.requireKey
  split
  · exact .error ⟨_, rfl⟩
  · exact .ok _

end Model

end Storyboard
