import Storyboard.Proofs.Attempts
import Storyboard.Proofs.Records

/-!
# The course of a job

What a job did is read off the sequence of its attempts: the first decisive one tells
with which attempt the job stops, through which phases it goes and whose code it
yields. The inversion lemmas at the beginning take a job apart that came to an outcome.
-/

namespace Storyboard

open Plan (Trace)
open Results (bind_ok_iff map_ok_iff mapError_ok_iff)

namespace LoopState

theorem afterAttempt_succeeded_iff {state : LoopState} {attempt : Attempt} {budget : Int} :
    (state.afterAttempt attempt budget).phase = .succeeded ↔ attempt.passed = true := by
  unfold afterAttempt
  split
  · next h => simp [h]
  · next h =>
    split
    · simp [h]
    · split
      · simp [h]
      · split <;> simp [h]

end LoopState

namespace Plan

variable {plan : Plan} {settings : Settings} {line : Model.Line}

theorem make_ok {request : Request} {script : Script} {log : Log}
    (h : Plan.make request script = (.ok plan, log)) :
    plan.request = request ∧ plan.script = script := by
  unfold make at h
  cases hl : layOut request script (Canvas.ofRatio request.aspectRatio).1 with
  | error fault => simp [hl] at h
  | ok found =>
    simp only [hl, Prod.mk.injEq, Except.ok.injEq] at h
    obtain ⟨rfl, _⟩ := h
    obtain ⟨frames, _, hrest⟩ := bind_ok_iff.mp hl
    obtain ⟨user, _, hplan⟩ := bind_ok_iff.mp hrest
    obtain rfl := Except.ok.inj hplan
    exact ⟨rfl, rfl⟩

theorem attempts_of_stops {last : Nat}
    (hs : Stops (plan.attemptAt settings line) (rounds settings) last) :
    (plan.run settings line).1.attempts =
      (List.range (last + 1)).map (plan.attemptAt settings line) := by
  rw [run_of_stops _ _ _ hs]

/-- Nothing gets out of an attempt that passed. -/
theorem attemptAt_escape {number : Nat} (h : (plan.attemptAt settings line number).passed = true) :
    (plan.attemptAt settings line number).escape = none := by
  obtain ⟨answer, he⟩ := plan.runAttempt_eq settings (plan.before settings line number).2
    (plan.before settings line number).1
  rw [attemptAt, he] at h ⊢
  exact Attempt.ofAnswer_escape h

theorem attemptAt_passed {number : Nat}
    (h : (plan.attemptAt settings line number).passed = true) :
    ∃ reply, (plan.attemptAt settings line number).reply = some (.text reply) ∧
      (plan.attemptAt settings line number).code = some (Fence.code reply) ∧
      (Review.review (Fence.code reply)).passed = true := by
  obtain ⟨answer, he⟩ := plan.runAttempt_eq settings (plan.before settings line number).2
    (plan.before settings line number).1
  rw [attemptAt, he] at h ⊢
  exact Attempt.ofAnswer_passed h

theorem getLast?_of_stops {last : Nat}
    (hs : Stops (plan.attemptAt settings line) (rounds settings) last) :
    (plan.run settings line).1.attempts.getLast? = some (plan.attemptAt settings line last) := by
  rw [attempts_of_stops hs, List.range_succ, List.map_append]
  simp

/-- What gets out of a job gets out of the attempt with which it stops. -/
theorem escape?_of_stops {last : Nat}
    (hs : Stops (plan.attemptAt settings line) (rounds settings) last) :
    (plan.run settings line).1.escape? = (plan.attemptAt settings line last).escape := by
  rw [Trace.escape?, getLast?_of_stops hs, Option.bind_some]

theorem attemptAt_escape_family {number : Nat} {failure : Failure}
    (h : (plan.attemptAt settings line number).escape = some failure) :
    failure.family = .other := by
  obtain ⟨answer, he⟩ := plan.runAttempt_eq settings (plan.before settings line number).2
    (plan.before settings line number).1
  rw [attemptAt, he] at h
  exact Attempt.ofAnswer_escape_family h

/-- A failure that gets out of a job is no matter of credentials. -/
theorem escape?_family {failure : Failure} (h : (plan.run settings line).1.escape? = some failure) :
    failure.family = .other := by
  obtain ⟨last, hs⟩ := exists_stops (plan.attemptAt settings line) (Nat.succ_pos _)
  rw [escape?_of_stops hs] at h
  exact attemptAt_escape_family h

/-- A failure gets out of a job exactly if it gets out of one of its attempts. -/
theorem escape?_eq_none_iff :
    (plan.run settings line).1.escape? = none ↔
      ∀ attempt ∈ (plan.run settings line).1.attempts, attempt.escape = none := by
  obtain ⟨last, hs⟩ := exists_stops (plan.attemptAt settings line) (Nat.succ_pos _)
  rw [escape?_of_stops hs, attempts_of_stops hs, List.range_succ, List.map_append,
    List.forall_mem_append, List.map_singleton, List.forall_mem_singleton]
  refine ⟨fun h => ⟨fun attempt hm => ?_, h⟩, fun h => h.2⟩
  obtain ⟨number, hn, rfl⟩ := List.mem_map.mp hm
  exact (Attempt.isDecisive_eq_false_iff.mp (hs.goesOn number (List.mem_range.mp hn))).2.2

/-- A job brings forth the code of the attempt with which it stops, if that one passed. -/
theorem code?_of_stops {last : Nat}
    (hs : Stops (plan.attemptAt settings line) (rounds settings) last) :
    (plan.run settings line).1.code? =
      if (plan.attemptAt settings line last).passed = true then
        (plan.attemptAt settings line last).code
      else none := by
  simp only [Trace.code?, final_of_stops _ _ _ hs, stateAfter,
    LoopState.afterAttempt_succeeded_iff, getLast?_of_stops hs, Option.bind_some]

/-- Code that a job brought forth is that of its last attempt, which passed; none of the
attempts before it was decisive. -/
theorem code?_eq_some {code : String} (h : (plan.run settings line).1.code? = some code) :
    ∃ earlier last reply, (plan.run settings line).1.attempts = earlier ++ [last] ∧
      (∀ attempt ∈ earlier, attempt.isDecisive = false) ∧ last.passed = true ∧
      last.reply = some (.text reply) ∧ last.code = some code ∧ code = Fence.code reply ∧
      (Review.review code).passed = true := by
  obtain ⟨last, hs⟩ := exists_stops (plan.attemptAt settings line) (Nat.succ_pos _)
  rw [code?_of_stops hs] at h
  split at h
  · next hp =>
    obtain ⟨reply, hreply, hcode, hpassed⟩ := attemptAt_passed hp
    obtain rfl := Option.some.inj (hcode.symm.trans h)
    refine ⟨(List.range last).map (plan.attemptAt settings line), _, reply, ?_, ?_, hp, hreply,
      hcode, rfl, hpassed⟩
    · rw [attempts_of_stops hs, List.range_succ, List.map_append, List.map_singleton]
    · intro attempt hm
      obtain ⟨number, hn, rfl⟩ := List.mem_map.mp hm
      exact hs.goesOn number (List.mem_range.mp hn)
  · contradiction

/-- Nothing gets out of a job that brings forth code. -/
theorem escape?_of_code? {code : String} (h : (plan.run settings line).1.code? = some code) :
    (plan.run settings line).1.escape? = none := by
  obtain ⟨last, hs⟩ := exists_stops (plan.attemptAt settings line) (Nat.succ_pos _)
  rw [code?_of_stops hs] at h
  rw [escape?_of_stops hs]
  split at h
  · next hp => exact attemptAt_escape hp
  · contradiction

end Plan

theorem generate_eq_finish {settings : Settings} {request : Request} {desk : Desk}
    {line : Model.Line} {key : String} {script : Script} {plan : Plan} {log : Log}
    (hkey : settings.requireKey = .ok key) (hscript : desk.script request = .ok script)
    (hmake : Plan.make request script = (.ok plan, log)) :
    generate settings request desk line = plan.finish settings desk (line.note log) := by
  have hstart : (settings.requireKey.bind fun _ => desk.script request) = .ok script :=
    bind_ok_iff.mpr ⟨key, hkey, hscript⟩
  simp only [generate, hstart, hmake]

/-- A job fails before its first attempt, with the desk as it was, or it has a plan and
finishes it. -/
theorem generate_cases (settings : Settings) (request : Request) (desk : Desk) (line : Model.Line) :
    (∃ failure log, generate settings request desk line = (.error failure, desk, line.note log)) ∨
    ∃ key script plan log, settings.requireKey = .ok key ∧ desk.script request = .ok script ∧
      Plan.make request script = (.ok plan, log) ∧
      generate settings request desk line = plan.finish settings desk (line.note log) := by
  cases hstart : settings.requireKey.bind fun _ => desk.script request with
  | error failure =>
    refine Or.inl ⟨failure, [], ?_⟩
    simp only [generate, hstart, Model.Line.note, List.append_nil]
  | ok script =>
    obtain ⟨key, hkey, hscript⟩ := bind_ok_iff.mp hstart
    cases hmake : Plan.make request script with
    | mk plan log =>
      cases plan with
      | error fault =>
        refine Or.inl ⟨.number fault, log, ?_⟩
        simp only [generate, hstart, hmake]
      | ok plan =>
        exact Or.inr ⟨key, script, plan, log, hkey, hscript, hmake,
          generate_eq_finish hkey hscript hmake⟩

/-- The attempts of a plan are made in any case; then its code is chosen and kept, and a
failure of either leaves the desk as it was. -/
theorem Plan.finish_cases (plan : Plan) (settings : Settings) (desk : Desk) (line : Model.Line) :
    (∃ failure line', plan.chooseCode (plan.run settings line).1 = .error failure ∧
      plan.finish settings desk line = (.error failure, desk, line') ∧
      line'.wire = (plan.run settings line).2.wire) ∨
    ∃ code usedFallback, plan.chooseCode (plan.run settings line).1 = .ok (code, usedFallback) ∧
      ((∃ failure line', desk.keep plan.request.jobId code usedFallback = .error failure ∧
        plan.finish settings desk line = (.error failure, desk, line') ∧
        line'.wire = (plan.run settings line).2.wire) ∨
      ∃ artifact after log line', desk.keep plan.request.jobId code usedFallback =
          .ok (artifact, after, log) ∧
        plan.finish settings desk line = (.ok ⟨artifact, (plan.run settings line).1.attempts,
          (plan.run settings line).1.phases⟩, after, line') ∧
        line'.wire = (plan.run settings line).2.wire) := by
  let reported := (plan.run settings line).2.note (plan.finishLog (plan.run settings line).1)
  unfold finish
  cases hchoose : plan.chooseCode (plan.run settings line).1 with
  | error failure => exact Or.inl ⟨failure, reported, rfl, by simp only [hchoose, reported], rfl⟩
  | ok chosen =>
    obtain ⟨code, usedFallback⟩ := chosen
    refine Or.inr ⟨code, usedFallback, rfl, ?_⟩
    cases hkeep : desk.keep plan.request.jobId code usedFallback with
    | error failure =>
      exact Or.inl ⟨failure, reported, rfl, by simp only [hchoose, hkeep, reported], rfl⟩
    | ok kept =>
      obtain ⟨artifact, after, log⟩ := kept
      exact Or.inr ⟨artifact, after, log, reported.note log, rfl,
        by simp only [hchoose, hkeep, reported], rfl⟩

/-- An outcome comes from a plan for the script of the request: the attempts are those of
the plan, and the code that was chosen is what the desk was given. -/
theorem generate_ok {settings : Settings} {request : Request} {desk after : Desk}
    {line line' : Model.Line} {outcome : Outcome}
    (h : generate settings request desk line = (.ok outcome, after, line')) :
    ∃ key script plan log code usedFallback keptLog,
      settings.requireKey = .ok key ∧ desk.script request = .ok script ∧
      Plan.make request script = (.ok plan, log) ∧
      plan.chooseCode (plan.run settings (line.note log)).1 = .ok (code, usedFallback) ∧
      desk.keep request.jobId code usedFallback = .ok (outcome.artifact, after, keptLog) ∧
      outcome.attempts = (plan.run settings (line.note log)).1.attempts ∧
      outcome.phases = (plan.run settings (line.note log)).1.phases ∧
      line'.wire = (plan.run settings (line.note log)).2.wire := by
  rcases generate_cases settings request desk line with
    ⟨failure, log, hg⟩ | ⟨key, script, plan, log, hkey, hscript, hmake, hg⟩
  · simp [hg] at h
  rw [hg] at h
  rcases plan.finish_cases settings desk (line.note log) with
    ⟨fault, line'', _, hf, _⟩ | ⟨code, usedFallback, hchoose, hrest⟩
  · simp [hf] at h
  rcases hrest with
    ⟨failure, line'', _, hf, _⟩ | ⟨artifact, desk', keptLog, line'', hkeep, hf, hwire⟩
  · simp [hf] at h
  rw [hf] at h
  simp only [Prod.mk.injEq, Except.ok.injEq] at h
  obtain ⟨rfl, rfl, rfl⟩ := h
  rw [(Plan.make_ok hmake).1] at hkeep
  exact ⟨key, script, plan, log, code, usedFallback, keptLog, hkey, hscript, hmake, hchoose,
    hkeep, rfl, rfl, hwire⟩

/-- `number` is the least one whose attempt is decisive, and the budget reaches it. -/
structure FirstDecisive (attempts : Nat → Attempt) (budget number : Nat) : Prop where
  within : number < budget
  decisive : (attempts number).isDecisive = true
  least : ∀ earlier < number, (attempts earlier).isDecisive = false

section Course

variable {plan : Plan} {settings : Settings} {line : Model.Line}

theorem FirstDecisive.stops {attempts : Nat → Attempt} {number : Nat}
    (hb : 1 ≤ settings.maxAttempts)
    (h : FirstDecisive attempts settings.maxAttempts.toNat number) :
    Plan.Stops attempts (Plan.rounds settings) number :=
  ⟨by rw [Plan.rounds_eq hb]; exact h.within, h.least, Or.inl h.decisive⟩

theorem FirstDecisive.unique {attempts : Nat → Attempt} {budget first second : Nat}
    (h₁ : FirstDecisive attempts budget first) (h₂ : FirstDecisive attempts budget second) :
    first = second := by
  rcases Nat.lt_trichotomy first second with hlt | rfl | hlt
  · have hd := h₂.least first hlt
    rw [h₁.decisive] at hd
    contradiction
  · rfl
  · have hd := h₁.least second hlt
    rw [h₂.decisive] at hd
    contradiction

/-- Code is chosen unless a failure got out of the job or the template has none. -/
theorem Plan.chooseCode_ok {trace : Trace} {code : String} {usedFallback : Bool}
    (h : plan.chooseCode trace = .ok (code, usedFallback)) :
    (usedFallback = false ∧ trace.code? = some code) ∨
    (usedFallback = true ∧ trace.code? = none ∧ Template.code plan.script plan.request.imageUrls
      plan.request.narration frameRate = .ok code) := by
  cases he : trace.escape? with
  | some failure =>
    simp only [chooseCode, he] at h
    contradiction
  | none =>
    cases hc : trace.code? with
    | some found =>
      simp only [chooseCode, he, hc, Except.ok.injEq, Prod.mk.injEq] at h
      obtain ⟨rfl, rfl⟩ := h
      exact Or.inl ⟨rfl, rfl⟩
    | none =>
      simp only [chooseCode, he, hc] at h
      obtain ⟨found, hf, hpair⟩ := map_ok_iff.mp (mapError_ok_iff.mp h)
      obtain ⟨rfl, rfl⟩ := Prod.mk.inj hpair
      exact Or.inr ⟨rfl, rfl, hf⟩

theorem Plan.finish_wire (desk : Desk) :
    (plan.finish settings desk line).2.2.wire = (plan.run settings line).2.wire := by
  rcases plan.finish_cases settings desk line with
    ⟨_, _, _, hf, hw⟩ | ⟨_, _, _, ⟨_, _, _, hf, hw⟩ | ⟨_, _, _, _, _, hf, hw⟩⟩ <;>
  rw [hf, hw]

end Course

namespace Sample

/-- A script of one scene. -/
def script : Script :=
  ⟨"s", [⟨"a", 1, standardMood, ⟨"Hi", "", [], []⟩, "", none⟩], .standard, "", [],
    List.cons_ne_nil _ _⟩

/-- Settings with a key and nothing else set. -/
def settings : Settings := { Settings.standard with openRouterKey := "k" }

/-- A desk that keeps code in a store with the record of the script in it. -/
def desk : Desk := ⟨⟨none, true, Store.empty.save "s" script.record⟩, true, now⟩

/-- A request for the script. -/
def request : Request := ⟨"j", "s", [], none, Canvas.standardRatio, 1, none⟩

/-- A line on which no model answers. -/
def line : Model.Line :=
  ⟨⟨[], .noContent .openRouter, 0, []⟩, ⟨[], [], []⟩, []⟩

theorem check_script : Script.check .text script.stored = .accepted script := rfl

theorem script_isWhole : script.IsWhole := by
  unfold Script.IsWhole
  decide

/-- The desk reads the script from its record. -/
theorem desk_script : desk.script request = .ok script :=
  Desk.script_of_record rfl (by decide) rfl (Script.sound_of_check check_script) script_isWhole rfl

theorem desk_history : desk.connection.store.history request.jobId = .ok [] :=
  Store.history_eq_nil_iff.mpr rfl

theorem exists_plan : ∃ plan log, Plan.make request script = (.ok plan, log) := ⟨_, _, rfl⟩

end Sample

end Storyboard
