import Storyboard.Proofs.Attempts

/-!
# Lines that differ in clients and reports only

What a job does on a line depends on the replies and the random parts that the line holds. It
does not depend on which keys have a client by now, nor on what was reported. So jobs may
share their clients and still do what each of them would do alone.
-/

namespace Storyboard.Model

/-- The same random parts to come, and the same pauses so far. -/
structure Pacing.Like (first second : Pacing) : Prop where
  jitter : first.jitter = second.jitter
  pauses : first.pauses = second.pauses

/-- Lines that differ in clients and reports only. -/
structure Line.Like (first second : Line) : Prop where
  wire : first.wire = second.wire
  pacing : first.pacing.Like second.pacing

/-- Equal results, on lines that differ in clients and reports only. -/
structure Agree (first second : α × Line) : Prop where
  result : first.1 = second.1
  line : first.2.Like second.2

variable {first second : Line}

theorem Line.Like.refl (line : Line) : line.Like line := ⟨rfl, rfl, rfl⟩

theorem Line.note_nil (line : Line) : line.note [] = line := by simp [note]

theorem Line.Like.note (h : first.Like second) (log log' : Log) :
    (first.note log).Like (second.note log') := ⟨h.wire, h.pacing.jitter, h.pacing.pauses⟩

theorem RetryPolicy.sendFrom_like (policy : RetryPolicy) (send : σ → Except Failure α × σ)
    (more number : Nat) (state : σ) {pacing pacing' : Pacing} (h : pacing.Like pacing') :
    (policy.sendFrom send more number state pacing).1 =
        (policy.sendFrom send more number state pacing').1 ∧
      (policy.sendFrom send more number state pacing).2.1 =
        (policy.sendFrom send more number state pacing').2.1 ∧
      (policy.sendFrom send more number state pacing).2.2.Like
        (policy.sendFrom send more number state pacing').2.2 := by
  induction more generalizing number state pacing pacing' with
  | zero =>
    cases hs : send state with
    | mk answer after =>
      cases answer with
      | ok value =>
        rw [sendFrom_ok hs, sendFrom_ok hs]
        exact ⟨rfl, rfl, h⟩
      | error failure =>
        cases ht : failure.isTransient with
        | error untold =>
          rw [sendFrom_untold hs ht, sendFrom_untold hs ht]
          exact ⟨rfl, rfl, h⟩
        | ok passes =>
          rw [sendFrom_last hs ht (Or.inr rfl), sendFrom_last hs ht (Or.inr rfl)]
          exact ⟨rfl, rfl, h⟩
  | succ more ih =>
    have hdraw : pacing.draw = pacing'.draw := by rw [Pacing.draw, Pacing.draw, h.jitter]
    cases hs : send state with
    | mk answer after =>
      cases answer with
      | ok value =>
        rw [sendFrom_ok hs, sendFrom_ok hs]
        exact ⟨rfl, rfl, h⟩
      | error failure =>
        rcases ht : failure.isTransient with untold | ⟨_ | _⟩
        · rw [sendFrom_untold hs ht, sendFrom_untold hs ht]
          exact ⟨rfl, rfl, h⟩
        · rw [sendFrom_last hs ht (Or.inl rfl), sendFrom_last hs ht (Or.inl rfl)]
          exact ⟨rfl, rfl, h⟩
        · rw [sendFrom_again hs ht, sendFrom_again hs ht, hdraw]
          cases policy.pause number pacing'.draw with
          | error fault => exact ⟨rfl, rfl, h⟩
          | ok pause =>
            have hpauses : pacing.pauses ++ [pause] = pacing'.pauses ++ [pause] := by
              rw [h.pauses]
            have hnext (log log' : Log) :
                (⟨pacing.jitter.tail, pacing.pauses ++ [pause], log⟩ : Pacing).Like
                  ⟨pacing'.jitter.tail, pacing'.pauses ++ [pause], log'⟩ :=
              ⟨congrArg List.tail h.jitter, hpauses⟩
            exact ih _ _ (hnext _ _)

theorem RetryPolicy.run_like (policy : RetryPolicy) (send : Wire → Except Failure α × Wire)
    (h : first.Like second) :
    Agree (first.resume (policy.run send first.wire first.pacing))
      (second.resume (policy.run send second.wire second.pacing)) := by
  obtain ⟨hresult, hwire, hpacing⟩ :=
    policy.sendFrom_like send (policy.limit.toNat - 1) 0 second.wire h.pacing
  rw [h.wire]
  exact ⟨hresult, hwire, hpacing⟩

theorem Line.Like.withClient (h : first.Like second) (key key' : String) :
    (first.withClient key).Like (second.withClient key') := by
  unfold Line.withClient
  split <;> split <;> exact ⟨h.wire, h.pacing.jitter, h.pacing.pauses⟩

theorem Line.ask_like (h : first.Like second) (settings : Settings) (overrides : Overrides)
    (prompts : Prompts) :
    Agree (first.ask settings overrides prompts) (second.ask settings overrides prompts) := by
  unfold ask
  cases settings.requireKey with
  | error failure => exact ⟨rfl, h⟩
  | ok key =>
    cases settings.provider with
    | openRouter =>
      have hrun := (RetryPolicy.ofSettings settings).run_like
        (OpenRouter.send (OpenRouter.url settings) (OpenRouter.headers settings key)
          (OpenRouter.timeout settings) (overrides.question settings prompts)) h
      exact ⟨congrArg (Except.bind · OpenRouter.content) hrun.result, hrun.line⟩
    | gemini =>
      dsimp only [askGemini]
      split
      · exact ⟨rfl, h.withClient key key⟩
      · next question _ =>
        have hrun := (RetryPolicy.ofSettings settings).run_like (Gemini.send key question)
          (h.withClient key key)
        exact ⟨congrArg (Except.bind · fun answer => answer.content.map Json.text) hrun.result,
          hrun.line⟩

end Storyboard.Model

namespace Storyboard.Plan

open Model (Agree)

variable {first second : Model.Line}

theorem runAttempt_like (h : first.Like second) (plan : Plan) (settings : Settings)
    (state : LoopState) :
    Agree (plan.runAttempt settings state first) (plan.runAttempt settings state second) := by
  have hask := Model.Line.ask_like (h.note [plan.attemptLog settings state]
    [plan.attemptLog settings state]) settings .none (plan.promptsFor state)
  constructor
  · exact congrArg (fun answer =>
      (Attempt.ofAnswer state.attempt (plan.promptsFor state).user answer).1) hask.result
  · exact (hask.line.note _ _).note _ _

/-- The attempts of a job are the same on lines that differ in clients and reports only. -/
theorem runFrom_like (h : first.Like second) (plan : Plan) (settings : Settings) (more : Nat)
    (state : LoopState) :
    Agree (plan.runFrom settings more state first) (plan.runFrom settings more state second) := by
  induction more generalizing state first second with
  | zero =>
    have hattempt := runAttempt_like h plan settings state
    rw [runFrom, runFrom]
    dsimp only
    rw [hattempt.result]
    exact ⟨rfl, hattempt.line⟩
  | succ more ih =>
    have hattempt := runAttempt_like h plan settings state
    by_cases hphase : (state.afterAttempt (plan.runAttempt settings state second).1
        settings.maxAttempts).phase = .attempting
    · rw [runFrom_goesOn _ _ second hphase, runFrom_goesOn _ _ first (hattempt.result ▸ hphase),
        hattempt.result]
      have hrest := ih hattempt.line (state.afterAttempt
        (plan.runAttempt settings state second).1 settings.maxAttempts)
      exact ⟨congrArg (Trace.after _ _) hrest.result, hrest.line⟩
    · rw [runFrom_stop _ _ second hphase, runFrom_stop _ _ first (hattempt.result ▸ hphase),
        hattempt.result]
      exact ⟨rfl, hattempt.line⟩

end Storyboard.Plan
