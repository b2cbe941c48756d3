import Storyboard.Proofs.Attempts
import Storyboard.Proofs.Wording

/-!
# What is asked

Requests are only added to those that were sent, and whoever holds an answer has sent
one. So has whoever meets a failure that does not tell its message, for such a failure
comes from outside only. This is followed from a single exchange through its repetitions
and the attempts of a job, so that code of a model, and a failure that gets out of an
attempt, are known to have taken a request.
-/

namespace Storyboard.Model

/-- Requests were only added, and at least one if there is an answer. -/
structure Asked (before after : Wire) (answered : Prop) : Prop where
  kept : before.sent <+: after.sent
  counts : answered → before.sent.length < after.sent.length

namespace Asked

variable {first second third : Wire} {p q : Prop}

theorem refl (wire : Wire) : Asked wire wire False := ⟨List.prefix_refl _, False.elim⟩

theorem mono (h : Asked first second p) (hq : q → p) : Asked first second q :=
  ⟨h.kept, fun answered => h.counts (hq answered)⟩

theorem trans (h₁ : Asked first second p) (h₂ : Asked second third q) :
    Asked first third (p ∨ q) := by
  refine ⟨h₁.kept.trans h₂.kept, ?_⟩
  have hle₁ := h₁.kept.length_le
  have hle₂ := h₂.kept.length_le
  rintro (hp | hq)
  · have hlt := h₁.counts hp
    omega
  · have hlt := h₂.counts hq
    omega

end Asked

/-- The result comes from outside: a value, or a failure that does not tell its message. -/
def IsForeign (result : Except Failure α) : Prop :=
  ∀ failure, result = .error failure → ¬ failure.Tells

theorem isForeign_ok (value : α) : IsForeign (.ok value) := fun _ h => by contradiction

theorem not_isForeign_error {failure : Failure} (h : failure.Tells) :
    ¬ IsForeign (.error failure : Except Failure α) := fun hforeign => hforeign failure rfl h

theorem IsForeign.of_bind {result : Except Failure α} {next : α → Except Failure β}
    (h : IsForeign (result.bind next)) : IsForeign result := by
  cases result with
  | ok value => exact isForeign_ok value
  | error failure => exact fun other he => h other (by rw [← Except.error.inj he]; rfl)

/-- A way to send that answers only to a request. -/
def IsPaid (send : Wire → Except Failure α × Wire) : Prop :=
  ∀ wire, Asked wire (send wire).2 (IsForeign (send wire).1)

theorem Wire.send_asked (wire : Wire) (request : Request) :
    Asked wire (wire.send request).2 True := by
  have hsent : (wire.send request).2.sent = wire.sent ++ [request] := by
    unfold Wire.send
    split <;> rfl
  constructor
  · rw [hsent]
    exact List.prefix_append _ _
  · intro _
    rw [hsent, List.length_append]
    exact Nat.lt_succ_self _

theorem OpenRouter.send_paid (url : String) (headers : List (String × String))
    (timeout : Option Float) (question : Question) :
    IsPaid (OpenRouter.send url headers timeout question) := by
  intro wire
  cases hdial : OpenRouter.dial url headers question with
  | error failure =>
    have htells := OpenRouter.dial_tells url headers question failure hdial
    simp only [OpenRouter.send, hdial]
    exact (Asked.refl wire).mono (not_isForeign_error htells)
  | ok address =>
    simp only [OpenRouter.send, hdial]
    exact (wire.send_asked _).mono fun _ => trivial

theorem Gemini.send_paid (key : String) (question : Question) :
    IsPaid (Gemini.send key question) :=
  fun wire => (wire.send_asked _).mono fun _ => trivial

/-- What holds of one exchange, and of a failed one with what follows it, holds of a
request that is sent again. The count is that of the requests that may follow. -/
theorem RetryPolicy.sendFrom_induction (policy : RetryPolicy)
    {send : Wire → Except Failure α × Wire}
    {motive : Nat → Wire → Except Failure α → Wire → Prop}
    (hsend : ∀ more wire, motive more wire (send wire).1 (send wire).2)
    (hagain : ∀ {more first second third failure answer},
      motive 0 first (.error failure) second → motive more second answer third →
      motive (more + 1) first answer third)
    (hfailed : ∀ {more first second failure other}, other.Tells →
      motive more first (.error failure) second → motive more first (.error other) second)
    (more number : Nat) (wire : Wire) (pacing : Pacing) :
    motive more wire (policy.sendFrom send more number wire pacing).1
      (policy.sendFrom send more number wire pacing).2.1 := by
  induction more using Nat.strongRecOn generalizing number wire pacing with
  | ind more ih =>
    rcases policy.sendFrom_cases send more number wire pacing with
      ⟨answer, hresult, hanswer⟩ | ⟨fewer, failure, pause, rfl, hfailure, _, hresult⟩
    · have hone := hsend more wire
      rw [hresult]
      rcases hanswer with rfl | ⟨failure, other, hfailure, htells, rfl⟩
      · exact hone
      · rw [hfailure] at hone
        exact hfailed htells hone
    · have hfirst := hsend 0 wire
      rw [hfailure] at hfirst
      rw [hresult]
      exact hagain hfirst (ih fewer (Nat.lt_succ_self _) _ _ _)

/-- Sending again keeps the price. -/
theorem RetryPolicy.sendFrom_paid (policy : RetryPolicy) {send : Wire → Except Failure α × Wire}
    (h : IsPaid send) (more number : Nat) (wire : Wire) (pacing : Pacing) :
    Asked wire (policy.sendFrom send more number wire pacing).2.1
      (IsForeign (policy.sendFrom send more number wire pacing).1) := by
  refine policy.sendFrom_induction
    (motive := fun _ before answer after => Asked before after (IsForeign answer))
    (fun _ => h) (fun hfirst hsecond => ?_) (fun htells hfirst => ?_) more number wire pacing
  · exact (hfirst.trans hsecond).mono Or.inr
  · exact hfirst.mono fun hforeign => absurd hforeign (not_isForeign_error htells)

theorem Line.withClient_wire (line : Line) (key : String) :
    (line.withClient key).wire = line.wire := by
  unfold withClient
  split <;> rfl

theorem Line.askOpenRouter_asked (line : Line) (settings : Settings) (key : String)
    (question : Question) :
    Asked line.wire (line.askOpenRouter settings key question).2.wire
      (IsForeign (line.askOpenRouter settings key question).1) :=
  (RetryPolicy.sendFrom_paid (RetryPolicy.ofSettings settings)
    (OpenRouter.send_paid (OpenRouter.url settings) (OpenRouter.headers settings key)
      (OpenRouter.timeout settings) question) _ 0 line.wire line.pacing).mono IsForeign.of_bind

theorem Line.askGemini_asked (line : Line) (settings : Settings) (key : String)
    (question : Question) :
    Asked line.wire (line.askGemini settings key question).2.wire
      (IsForeign (line.askGemini settings key question).1) := by
  rw [← line.withClient_wire key]
  unfold askGemini
  cases hlimits : Gemini.checkLimits question with
  | error failure =>
    have htells := Gemini.checkLimits_tells question failure hlimits
    exact (Asked.refl _).mono (not_isForeign_error htells)
  | ok question =>
    exact (RetryPolicy.sendFrom_paid (RetryPolicy.ofSettings settings)
      (Gemini.send_paid key question) _ 0 (line.withClient key).wire
      (line.withClient key).pacing).mono IsForeign.of_bind

/-- An answer of either provider has taken a request. -/
theorem Line.ask_asked (line : Line) (settings : Settings) (overrides : Overrides)
    (prompts : Prompts) :
    Asked line.wire (line.ask settings overrides prompts).2.wire
      (IsForeign (line.ask settings overrides prompts).1) := by
  unfold ask
  split
  · next failure hkey =>
    exact (Asked.refl _).mono (not_isForeign_error (requireKey_tells settings failure hkey))
  · dsimp only
    split
    · exact line.askOpenRouter_asked _ _ _
    · exact line.askGemini_asked _ _ _

/-- No reply is left, and what a request meets then tells its message. -/
structure Wire.IsSilent (wire : Wire) : Prop where
  replies : wire.replies = []
  silence : wire.silence.Tells

/-- There is no answer but a failure that tells its message, and the wire is silent. -/
structure Unanswered (result : Except Failure α × Wire) : Prop where
  fails : ∃ failure, result.1 = .error failure ∧ failure.Tells
  silent : result.2.IsSilent

theorem Wire.send_silent {wire : Wire} (h : wire.IsSilent) (request : Request) :
    (wire.send request).1 = .failure wire.silence ∧ (wire.send request).2.IsSilent := by
  rw [Wire.send, h.replies]
  exact ⟨rfl, rfl, h.silence⟩

theorem OpenRouter.send_silent {wire : Wire} (h : wire.IsSilent) (url : String)
    (headers : List (String × String)) (timeout : Option Float) (question : Question) :
    Unanswered (OpenRouter.send url headers timeout question wire) := by
  cases hdial : OpenRouter.dial url headers question with
  | error failure =>
    have htells := OpenRouter.dial_tells url headers question failure hdial
    simp only [OpenRouter.send, hdial]
    exact ⟨⟨failure, rfl, htells⟩, h⟩
  | ok address =>
    simp only [OpenRouter.send, hdial]
    obtain ⟨hreply, hleft⟩ := Wire.send_silent h
      ⟨.openRouter address.text (OpenRouter.signed address headers) timeout, question⟩
    exact ⟨⟨wire.silence, by rw [hreply]; rfl, h.silence⟩, hleft⟩

theorem Gemini.send_silent {wire : Wire} (h : wire.IsSilent) (key : String) (question : Question) :
    Unanswered (Gemini.send key question wire) := by
  obtain ⟨hreply, hleft⟩ := Wire.send_silent h ⟨.gemini key, question⟩
  refine ⟨⟨wire.silence, ?_, h.silence⟩, hleft⟩
  change Gemini.receive (wire.send _).1 = _
  rw [hreply]
  rfl

theorem RetryPolicy.sendFrom_silent (policy : RetryPolicy)
    {send : Wire → Except Failure α × Wire}
    (h : ∀ wire, wire.IsSilent → Unanswered (send wire)) (more number : Nat) {wire : Wire}
    (hw : wire.IsSilent) (pacing : Pacing) :
    Unanswered ((policy.sendFrom send more number wire pacing).1,
      (policy.sendFrom send more number wire pacing).2.1) := by
  refine policy.sendFrom_induction
    (motive := fun _ before answer after => before.IsSilent → Unanswered (answer, after))
    (fun _ => h) (fun hfirst hsecond hb => ?_) (fun htells hfirst hb => ?_) more number wire pacing hw
  · exact hsecond (hfirst hb).silent
  · exact ⟨⟨_, rfl, htells⟩, (hfirst hb).silent⟩

theorem Unanswered.bind {result : Except Failure α × Wire} (h : Unanswered result)
    (next : α → Except Failure β) : Unanswered (result.1.bind next, result.2) := by
  obtain ⟨failure, hfailure, htells⟩ := h.fails
  exact ⟨⟨failure, by rw [hfailure]; rfl, htells⟩, h.silent⟩

theorem Line.askOpenRouter_silent {line : Line} (h : line.wire.IsSilent) (settings : Settings)
    (key : String) (question : Question) :
    Unanswered ((line.askOpenRouter settings key question).1,
      (line.askOpenRouter settings key question).2.wire) :=
  (RetryPolicy.sendFrom_silent _ (fun _ hw => OpenRouter.send_silent hw _ _ _ _) _ 0 h
    line.pacing).bind _

theorem Line.askGemini_silent {line : Line} (h : line.wire.IsSilent) (settings : Settings)
    (key : String) (question : Question) :
    Unanswered ((line.askGemini settings key question).1,
      (line.askGemini settings key question).2.wire) := by
  have hclient : (line.withClient key).wire.IsSilent := by rwa [line.withClient_wire]
  unfold askGemini
  cases hlimits : Gemini.checkLimits question with
  | error failure =>
    exact ⟨⟨failure, rfl, Gemini.checkLimits_tells question failure hlimits⟩, hclient⟩
  | ok question =>
    exact (RetryPolicy.sendFrom_silent _ (fun _ hw => Gemini.send_silent hw _ _) _ 0 hclient
      (line.withClient key).pacing).bind _

/-- On a silent line no provider answers. -/
theorem Line.ask_silent {line : Line} (h : line.wire.IsSilent) (settings : Settings)
    (overrides : Overrides) (prompts : Prompts) :
    Unanswered ((line.ask settings overrides prompts).1,
      (line.ask settings overrides prompts).2.wire) := by
  unfold ask
  split
  · next failure hkey => exact ⟨⟨failure, rfl, requireKey_tells settings failure hkey⟩, h⟩
  · dsimp only
    split
    · exact askOpenRouter_silent h _ _ _
    · exact askGemini_silent h _ _ _

end Storyboard.Model

namespace Storyboard

open Model (Asked)

theorem Attempt.run_passed {settings : Settings} {index : Int} {prompts : Model.Prompts}
    {line : Model.Line} (h : (Attempt.run settings index prompts line).1.passed = true) :
    ∃ value, (line.ask settings .none prompts).1 = .ok value := by
  change (ofAnswer index prompts.user (line.ask settings .none prompts).1).1.passed = true at h
  cases hanswer : (line.ask settings .none prompts).1 with
  | ok value => exact ⟨value, rfl⟩
  | error failure =>
    rw [hanswer] at h
    simp [ofAnswer] at h

theorem Attempt.run_isForeign {settings : Settings} {index : Int} {prompts : Model.Prompts}
    {line : Model.Line} (h : (Attempt.run settings index prompts line).1.passed = true ∨
      (Attempt.run settings index prompts line).1.escape.isSome = true) :
    Model.IsForeign (line.ask settings .none prompts).1 := by
  rcases h with hpassed | hescape
  · obtain ⟨value, hv⟩ := Attempt.run_passed hpassed
    rw [hv]
    exact Model.isForeign_ok value
  · obtain ⟨other, hother⟩ := Option.isSome_iff_exists.mp hescape
    obtain ⟨failure, hanswer, htold⟩ := Attempt.ofAnswer_escape_eq_some hother
    rintro found hfound ⟨message, hmessage⟩
    obtain rfl := Except.error.inj (hanswer.symm.trans hfound)
    rw [htold] at hmessage
    contradiction

namespace Plan

variable {plan : Plan} {settings : Settings}

/-- An attempt that passed, or let a failure out, has taken a request. -/
theorem runAttempt_asked (state : LoopState) (line : Model.Line) :
    Asked line.wire (plan.runAttempt settings state line).2.wire
      ((plan.runAttempt settings state line).1.passed = true ∨
        (plan.runAttempt settings state line).1.escape.isSome = true) :=
  ((line.note [plan.attemptLog settings state]).ask_asked settings .none
    (plan.promptsFor state)).mono Attempt.run_isForeign

theorem Runs.asked {state : LoopState} {line line' : Model.Line} {attempts : List Attempt}
    {phases : List Phase} (h : plan.Runs settings state line attempts phases line') :
    Asked line.wire line'.wire
      (∃ attempt ∈ attempts, attempt.passed = true ∨ attempt.escape.isSome = true) := by
  induction h with
  | ended _ => exact (Asked.refl _).mono (by simp)
  | attempt _ _ _ ih =>
    refine ((runAttempt_asked _ _).trans ih).mono ?_
    rintro ⟨attempt, hm, hp⟩
    rcases List.mem_cons.mp hm with rfl | hm
    · exact Or.inl hp
    · exact Or.inr ⟨attempt, hm, hp⟩
  | abort _ _ _ ih => exact ih

/-- The attempts of a job only add requests, and at least one if any of them passed or let a
failure out. -/
theorem run_asked (plan : Plan) (settings : Settings) (line : Model.Line) :
    Asked line.wire (plan.run settings line).2.wire
      (∃ attempt ∈ (plan.run settings line).1.attempts,
        attempt.passed = true ∨ attempt.escape.isSome = true) := by
  obtain ⟨phases, _, hruns⟩ := plan.run_runs settings line
  exact hruns.asked

theorem runAttempt_silent (state : LoopState) {line : Model.Line} (h : line.wire.IsSilent) :
    (plan.runAttempt settings state line).1.passed = false ∧
      (plan.runAttempt settings state line).1.escape = none ∧
      (plan.runAttempt settings state line).2.wire.IsSilent := by
  have hsilent := (line.note [plan.attemptLog settings state]).ask_silent h settings .none
    (plan.promptsFor state)
  obtain ⟨failure, hfailure, htells⟩ := hsilent.fails
  have hforeign : ¬ ((plan.runAttempt settings state line).1.passed = true ∨
      (plan.runAttempt settings state line).1.escape.isSome = true) :=
    fun h => Attempt.run_isForeign h failure hfailure htells
  obtain ⟨hp, he⟩ := not_or.mp hforeign
  exact ⟨by simpa using hp, by simpa using he, hsilent.silent⟩

/-- On a silent line no attempt of a job passes or lets a failure out. -/
theorem Runs.silent {state : LoopState} {line line' : Model.Line} {attempts : List Attempt}
    {phases : List Phase} (h : plan.Runs settings state line attempts phases line')
    (hs : line.wire.IsSilent) :
    ∀ attempt ∈ attempts, attempt.passed = false ∧ attempt.escape = none := by
  induction h with
  | ended _ => exact List.forall_mem_nil _
  | attempt _ _ _ ih =>
    obtain ⟨hp, he, hleft⟩ := runAttempt_silent _ hs
    exact List.forall_mem_cons.mpr ⟨⟨hp, he⟩, ih hleft⟩
  | abort _ _ _ ih => exact ih hs

end Plan

end Storyboard
