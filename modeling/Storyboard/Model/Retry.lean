import Storyboard.Decimal.Places
import Storyboard.Decimal.Whole
import Storyboard.Failure.Notice
import Storyboard.Log
import Storyboard.Settings.Basic

/-!
# Sending a request again

A request that fails in a way that may pass is sent again after a pause, up to a
limit. Pauses double from a base and have a random part, up to a cap. Any other
failure, and the failure of the last request, is the result. A failure that does not
tell its message when it is asked for this is replaced by the one that asking meets.

Pauses are recorded and not waited for: one without end counts as over.
-/

namespace Storyboard.Model

open Decimal (NumberFault)

-- Powers are those of the core library, whatever else is imported.
attribute [local instance (high)] instPowNat Int.instNatPow

/-- How often and after which pauses a request is sent again. -/
structure RetryPolicy where
  /-- How often it is sent at most. -/
  limit : Int
  /-- In seconds. -/
  base : Float
  /-- In seconds. -/
  cap : Float

/-- The policy of the settings. -/
def RetryPolicy.ofSettings (settings : Settings) : RetryPolicy :=
  ⟨settings.retryLimit, settings.retryBase, settings.retryCap⟩

/-- Random parts for the pauses to come, the pauses so far, and what was reported. -/
structure Pacing where
  jitter : List Float
  pauses : List Float
  log : Log

/-- The next random part; zero when none is left. -/
def Pacing.draw (pacing : Pacing) : Float := pacing.jitter.head?.getD 0

/-- The pause after the request with this number, counted from zero. -/
def RetryPolicy.pause (policy : RetryPolicy) (number : Nat) (random : Float) :
    Except NumberFault Float := do
  let factor ← Decimal.doubleOfInt (2 ^ number)
  let wanted := policy.base * factor + random
  return if policy.cap < wanted then policy.cap else wanted

/-- The report on a pause. -/
def RetryPolicy.report (policy : RetryPolicy) (number : Nat) (pause : Float) (failure : Failure) :
    LogEntry :=
  ⟨.warning, .retry, s!"Transport retry {number + 1}/{policy.limit} after " ++
    s!"{Decimal.fixedText 1 pause}s: {failure.message}"⟩

/-- Sends the request with this number and, while it fails in a way that may pass,
up to `more` further ones. -/
def RetryPolicy.sendFrom (policy : RetryPolicy) (send : σ → Except Failure α × σ)
    (more number : Nat) (state : σ) (pacing : Pacing) : Except Failure α × σ × Pacing :=
  match send state with
  | (.ok value, state) => (.ok value, state, pacing)
  | (.error failure, state) =>
    match failure.isTransient, more with
    | .error untold, _ => (.error untold, state, pacing)
    | .ok false, _ | .ok true, 0 => (.error failure, state, pacing)
    | .ok true, more + 1 =>
      match policy.pause number pacing.draw with
      | .error fault => (.error (.number fault), state, pacing)
      | .ok pause =>
        policy.sendFrom send more (number + 1) state
          { jitter := pacing.jitter.tail
            pauses := pacing.pauses ++ [pause]
            log := pacing.log ++ [policy.report number pause failure] }

section Steps

variable {policy : RetryPolicy} {send : σ → Except Failure α × σ} {more number : Nat}
  {state after : σ} {pacing : Pacing} {failure : Failure}

theorem RetryPolicy.sendFrom_ok {value : α} (h : send state = (.ok value, after)) :
    policy.sendFrom send more number state pacing = (.ok value, after, pacing) := by
  rw [sendFrom, h]

theorem RetryPolicy.sendFrom_untold {untold : Failure} (h : send state = (.error failure, after))
    (ht : failure.isTransient = .error untold) :
    policy.sendFrom send more number state pacing = (.error untold, after, pacing) := by
  rw [sendFrom, h]
  dsimp only
  rw [ht]

theorem RetryPolicy.sendFrom_last {passes : Bool} (h : send state = (.error failure, after))
    (ht : failure.isTransient = .ok passes) (hlast : passes = false ∨ more = 0) :
    policy.sendFrom send more number state pacing = (.error failure, after, pacing) := by
  rw [sendFrom, h]
  dsimp only
  rw [ht]
  rcases hlast with rfl | rfl
  · rfl
  · cases passes <;> rfl

theorem RetryPolicy.sendFrom_again (h : send state = (.error failure, after))
    (ht : failure.isTransient = .ok true) :
    policy.sendFrom send (more + 1) number state pacing =
      match policy.pause number pacing.draw with
      | .error fault => (.error (.number fault), after, pacing)
      | .ok pause =>
        policy.sendFrom send more (number + 1) after
          { jitter := pacing.jitter.tail
            pauses := pacing.pauses ++ [pause]
            log := pacing.log ++ [policy.report number pause failure] } := by
  rw [sendFrom, h]
  dsimp only
  rw [ht]

/-- A request is the last one, with what it met or with another failure in the place of its own;
or its failure passes by, and a pause and the next request follow. -/
theorem RetryPolicy.sendFrom_cases (policy : RetryPolicy) (send : σ → Except Failure α × σ)
    (more number : Nat) (state : σ) (pacing : Pacing) :
    (∃ answer, policy.sendFrom send more number state pacing = (answer, (send state).2, pacing) ∧
      (answer = (send state).1 ∨ ∃ failure other, (send state).1 = .error failure ∧
        other.Tells ∧ answer = .error other)) ∨
    ∃ fewer failure pause, more = fewer + 1 ∧ (send state).1 = .error failure ∧
      policy.pause number pacing.draw = .ok pause ∧
      policy.sendFrom send more number state pacing =
        policy.sendFrom send fewer (number + 1) (send state).2
          { jitter := pacing.jitter.tail
            pauses := pacing.pauses ++ [pause]
            log := pacing.log ++ [policy.report number pause failure] } := by
  cases hs : send state with
  | mk answer after =>
    cases answer with
    | ok value => exact Or.inl ⟨_, sendFrom_ok hs, Or.inl rfl⟩
    | error failure =>
      cases ht : failure.isTransient with
      | error untold =>
        exact Or.inl ⟨_, sendFrom_untold hs ht,
          Or.inr ⟨failure, untold, rfl, Failure.tells_of_isTransient_error ht, rfl⟩⟩
      | ok passes =>
        by_cases hlast : passes = false ∨ more = 0
        · exact Or.inl ⟨_, sendFrom_last hs ht hlast, Or.inl rfl⟩
        · obtain ⟨rfl, fewer, rfl⟩ : passes = true ∧ ∃ fewer, more = fewer + 1 :=
            ⟨by simpa using fun h => hlast (Or.inl h), more - 1, by omega⟩
          rw [sendFrom_again hs ht]
          cases policy.pause number pacing.draw with
          | error fault => exact Or.inl ⟨_, rfl, Or.inr ⟨failure, .number fault, rfl, ⟨_, rfl⟩, rfl⟩⟩
          | ok pause => exact Or.inr ⟨fewer, failure, pause, rfl, rfl, rfl, rfl⟩

end Steps

/-- Sends a request as the policy says. -/
def RetryPolicy.run (policy : RetryPolicy) (send : σ → Except Failure α × σ) (state : σ)
    (pacing : Pacing) : Except Failure α × σ × Pacing :=
  policy.sendFrom send (policy.limit.toNat - 1) 0 state pacing

end Storyboard.Model
