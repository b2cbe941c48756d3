import Storyboard.Proofs.Asking
import Storyboard.Proofs.Course
import Storyboard.Proofs.Markup

/-!
# What a job leaves behind

A job that was planned has code to keep once its attempts are over: the template's numbers
are those of the prompt, which were all in range, and its code is ASCII. The model's code
passed the review, so it is not empty; but it may have a lone half, for which the store has
no form. And a failure may get out of an attempt, since it is not told what went wrong. Then,
and only then, a job fails after it has asked.
-/

namespace Storyboard

open Checking
open Results (bind_ok_iff map_ok_iff)

/-- The frames that the prompt lays out are those of the timeline. -/
theorem exists_layOut {fps start : Int} {scenes : List Scene} {slots : List Prompt.Slot}
    (h : Prompt.slots fps start scenes = .ok slots) (index : Nat) (origin : Int) :
    ∃ segments, layOut fps index origin scenes = .ok segments := by
  induction scenes generalizing start slots index origin with
  | nil => exact ⟨[], rfl⟩
  | cons scene rest ih =>
    obtain ⟨frames, hframes, hlater⟩ := bind_ok_iff.mp h
    obtain ⟨later, hslots, _⟩ := bind_ok_iff.mp hlater
    have hscene : scene.frames fps = .ok (max 1 frames) :=
      map_ok_iff.mpr ⟨frames, hframes, rfl⟩
    obtain ⟨segments, hsegments⟩ := ih hslots (index + 1) (origin + max 1 frames)
    exact ⟨_, bind_ok_iff.mpr ⟨_, hscene, bind_ok_iff.mpr ⟨_, hsegments, rfl⟩⟩⟩

namespace Plan

variable {plan : Plan} {settings : Settings} {line : Model.Line} {request : Request}
  {script : Script} {log : Log}

/-- The script of a plan has a timeline. -/
theorem exists_timeline (h : Plan.make request script = (.ok plan, log)) :
    ∃ segments, script.timeline frameRate = .ok segments := by
  unfold make at h
  cases hl : layOut request script (Canvas.ofRatio request.aspectRatio).1 with
  | error fault => simp [hl] at h
  | ok found =>
    obtain ⟨frames, _, hrest⟩ := bind_ok_iff.mp hl
    obtain ⟨user, huser, _⟩ := bind_ok_iff.mp hrest
    obtain ⟨prompt, hprompt, _⟩ := map_ok_iff.mp huser
    obtain ⟨specs, _, hscenes⟩ := bind_ok_iff.mp hprompt
    obtain ⟨scenes, hs, _⟩ := bind_ok_iff.mp hscenes
    obtain ⟨slots, hslots, _⟩ := bind_ok_iff.mp hs
    exact exists_layOut hslots 0 0

/-- The template has code for a plan. -/
theorem exists_template (h : Plan.make request script = (.ok plan, log)) :
    ∃ code, Template.code plan.script plan.request.imageUrls plan.request.narration frameRate =
      .ok code := by
  obtain ⟨segments, hs⟩ := exists_timeline h
  rw [(make_ok h).2]
  exact ⟨_, Template.code_of_timeline hs⟩

theorem review_empty : (Review.review "").passed = false := by decide

/-- If no failure gets out of the attempts of a plan, its code is chosen. The code has a
character, and has a lone half only if the model's code has it. -/
theorem exists_choice (h : Plan.make request script = (.ok plan, log)) (settings : Settings)
    (line : Model.Line) (he : (plan.run settings line).1.escape? = none) :
    ∃ code usedFallback, plan.chooseCode (plan.run settings line).1 = .ok (code, usedFallback) ∧
      code ≠ "" ∧ (Text.hasHalf code = true → (plan.run settings line).1.code? = some code) := by
  cases hc : (plan.run settings line).1.code? with
  | some code =>
    refine ⟨code, false, by simp only [chooseCode, he, hc], ?_, fun _ => rfl⟩
    obtain ⟨_, _, _, _, _, _, _, _, _, hpassed⟩ := code?_eq_some hc
    rintro rfl
    rw [review_empty] at hpassed
    contradiction
  | none =>
    obtain ⟨code, ht⟩ := exists_template h
    refine ⟨code, true, by simp only [chooseCode, he, hc, ht]; rfl, Template.code_ne_empty ht, ?_⟩
    intro hhalf
    rw [Template.code_hasHalf ht] at hhalf
    contradiction

/-- Code of a model has taken a request. -/
theorem sent_of_code? {code : String} (h : (plan.run settings line).1.code? = some code) :
    line.wire.sent.length < (plan.run settings line).2.wire.sent.length := by
  obtain ⟨earlier, last, _, hattempts, _, hp, _⟩ := code?_eq_some h
  refine (plan.run_asked settings line).counts ⟨last, ?_, Or.inl hp⟩
  rw [hattempts]
  exact List.mem_append_right _ List.mem_cons_self

/-- A failure that gets out of an attempt has taken a request. -/
theorem sent_of_escape? {failure : Failure}
    (h : (plan.run settings line).1.escape? = some failure) :
    line.wire.sent.length < (plan.run settings line).2.wire.sent.length := by
  obtain ⟨last, hlast, he⟩ := Option.bind_eq_some_iff.mp h
  exact (plan.run_asked settings line).counts
    ⟨last, List.mem_of_getLast? hlast, Or.inr (by rw [he]; rfl)⟩

end Plan

/-- One version of a job was added, and nothing else changed. -/
structure Delivered (before after : Store) (jobId : String) (artifact : Artifact) : Prop where
  scripts : after.scripts = before.scripts
  rows : after.codes = before.codes ++ [.ofArtifact artifact]
  history : after.history jobId = (before.history jobId).map (· ++ [artifact])
  others : ∀ other, other ≠ jobId → after.history other = before.history other

theorem delivered_extend {store : Store} {artifact : Artifact} (h : store.Fits artifact) :
    Delivered store (store.extend artifact) artifact.jobId artifact :=
  ⟨Store.extend_scripts artifact, Store.extend_codes h.next, Store.history_extend_self h,
    fun _ hother => Store.history_extend_other hother.symm⟩

/-- The request passed its checks, whatever its narration and revision are. -/
def Request.IsAccepted (request : Request) : Prop :=
  ∃ narration revision fields, Request.checkFields narration revision fields = .accepted request

/-- The model's code of a job passes the review with a lone half in it. -/
def AcceptsHalf (settings : Settings) (request : Request) (desk : Desk) (line : Model.Line) :
    Prop :=
  ∃ key script plan log code, settings.requireKey = .ok key ∧
    desk.script request = .ok script ∧ Plan.make request script = (.ok plan, log) ∧
    (plan.run settings (line.note log)).1.code? = some code ∧ Text.hasHalf code = true

/-- A failure gets out of an attempt of a job. -/
def LetsOut (settings : Settings) (request : Request) (desk : Desk) (line : Model.Line) : Prop :=
  ∃ key script plan log failure, settings.requireKey = .ok key ∧
    desk.script request = .ok script ∧ Plan.make request script = (.ok plan, log) ∧
    (plan.run settings (line.note log)).1.escape? = some failure

/-- The attempts of a job leave nothing that could be kept. -/
def Breaks (settings : Settings) (request : Request) (desk : Desk) (line : Model.Line) : Prop :=
  AcceptsHalf settings request desk line ∨ LetsOut settings request desk line

/-- A model that never answers has no code, and its failures are told. -/
theorem not_breaks_of_silent {settings : Settings} {request : Request} {desk : Desk}
    {line : Model.Line} (h : line.wire.IsSilent) : ¬ Breaks settings request desk line := by
  have hquiet (plan : Plan) (log : Log) := (plan.run_runs settings (line.note log)).elim
    fun _ hruns => hruns.2.silent h
  rintro (⟨_, _, plan, log, code, _, _, _, hcode, _⟩ | ⟨_, _, plan, log, failure, _, _, _, hescape⟩)
  · obtain ⟨earlier, last, _, hattempts, _, hp, _⟩ := Plan.code?_eq_some hcode
    have hlast := (hquiet plan log last (by
      rw [hattempts]
      exact List.mem_append_right _ List.mem_cons_self)).1
    rw [hp] at hlast
    contradiction
  · have hnone := Plan.escape?_eq_none_iff.mpr fun attempt hm => (hquiet plan log attempt hm).2
    rw [hescape] at hnone
    contradiction

/-- A job with code of the model that has no lone half can keep it. -/
theorem not_breaks_of_code? {settings : Settings} {request : Request} {desk : Desk}
    {line : Model.Line} {script : Script} {plan : Plan} {log : Log} {code : String}
    (hscript : desk.script request = .ok script) (hmake : Plan.make request script = (.ok plan, log))
    (hcode : (plan.run settings (line.note log)).1.code? = some code)
    (hh : Text.hasHalf code = false) : ¬ Breaks settings request desk line := by
  -- The plan of a request is determined, so that of the hypothesis is the one that runs.
  have hsame {script' : Script} {plan' : Plan} {log' : Log}
      (hscript' : desk.script request = .ok script')
      (hmake' : Plan.make request script' = (.ok plan', log')) : plan' = plan ∧ log' = log := by
    obtain rfl := Except.ok.inj (hscript.symm.trans hscript')
    rw [hmake] at hmake'
    simp only [Prod.mk.injEq, Except.ok.injEq] at hmake'
    exact ⟨hmake'.1.symm, hmake'.2.symm⟩
  rintro (⟨_, _, _, _, found, _, hscript', hmake', hfound, hhalf⟩ |
    ⟨_, _, _, _, failure, _, hscript', hmake', hescape⟩)
  · obtain ⟨rfl, rfl⟩ := hsame hscript' hmake'
    obtain rfl := Option.some.inj (hcode.symm.trans hfound)
    rw [hh] at hhalf
    contradiction
  · obtain ⟨rfl, rfl⟩ := hsame hscript' hmake'
    rw [Plan.escape?_of_code? hcode] at hescape
    contradiction

theorem Request.IsAccepted.jobId {request : Request} (h : request.IsAccepted) :
    Text.hasHalf request.jobId = false := by
  obtain ⟨narration, revision, fields, h⟩ := h
  obtain ⟨_, _, hduration, _, rfl⟩ := seq_eq_accepted_iff.mp h
  obtain ⟨_, _, hratio, _, rfl⟩ := seq_eq_accepted_iff.mp hduration
  obtain ⟨_, _, hnarration, _, rfl⟩ := seq_eq_accepted_iff.mp hratio
  obtain ⟨_, _, himages, _, rfl⟩ := seq_eq_accepted_iff.mp hnarration
  obtain ⟨_, _, hscript, _, rfl⟩ := seq_eq_accepted_iff.mp himages
  obtain ⟨_, _, hjob, _, rfl⟩ := seq_eq_accepted_iff.mp hscript
  obtain ⟨jobId, hread, rfl⟩ := mapped_eq_accepted_iff.mp hjob
  obtain ⟨_, _, _, htext⟩ := required_eq_accepted_iff.mp hread
  exact (readFilledText_eq_accepted_iff.mp htext).2.1

theorem Desk.isOpen_of_script {desk : Desk} {request : Request} {script : Script}
    (h : desk.script request = .ok script) : desk.connection.isOpen = true := by
  obtain ⟨store, hs, _⟩ := bind_ok_iff.mp h
  exact (Desk.access_ok_iff.mp hs).1

section Generate

variable {settings : Settings} {request : Request} {desk : Desk} {line : Model.Line}

/-- With a lone half in the model's code a job fails, after it has asked. -/
theorem generate_of_half (hk : desk.keeps = true) (h : AcceptsHalf settings request desk line) :
    ∃ failure line', generate settings request desk line = (.error failure, desk, line') ∧
      line.wire.sent.length < line'.wire.sent.length := by
  obtain ⟨key, script, plan, log, code, hkey, hscript, hmake, hcode, hhalf⟩ := h
  have hsent : line.wire.sent.length <
      (plan.run settings (line.note log)).2.wire.sent.length := Plan.sent_of_code? hcode
  have hchoose : plan.chooseCode (plan.run settings (line.note log)).1 = .ok (code, false) := by
    simp only [Plan.chooseCode, Plan.escape?_of_code? hcode, hcode]
  rw [generate_eq_finish hkey hscript hmake]
  rcases plan.finish_cases settings desk (line.note log) with
    ⟨failure, line', _, hf, hw⟩ | ⟨found, flag, hfound, hrest⟩
  · exact ⟨_, line', hf, by rw [hw]; exact hsent⟩
  obtain ⟨rfl, rfl⟩ := Prod.mk.inj (Except.ok.inj (hchoose.symm.trans hfound))
  rcases hrest with ⟨failure, line', _, hf, hw⟩ | ⟨artifact, after, kept, line', hkeep, _, _⟩
  · exact ⟨failure, line', hf, by rw [hw]; exact hsent⟩
  · have hwhole := (Desk.keep_keeps hk hkeep).1.storable.whole
    rw [(Desk.keep_ok hkeep).2.1, hhalf] at hwhole
    contradiction

/-- A failure that gets out of an attempt is that of the job. -/
theorem generate_of_escape {key : String} {script : Script} {plan : Plan} {log : Log}
    {failure : Failure} (hkey : settings.requireKey = .ok key)
    (hscript : desk.script request = .ok script) (hmake : Plan.make request script = (.ok plan, log))
    (h : (plan.run settings (line.note log)).1.escape? = some failure) :
    ∃ line', generate settings request desk line = (.error failure, desk, line') ∧
      line'.wire = (plan.run settings (line.note log)).2.wire := by
  have hchoose : plan.chooseCode (plan.run settings (line.note log)).1 = .error failure := by
    simp only [Plan.chooseCode, h]
  rw [generate_eq_finish hkey hscript hmake]
  rcases plan.finish_cases settings desk (line.note log) with
    ⟨found, line', hfound, hf, hw⟩ | ⟨found, flag, hfound, _⟩
  · obtain rfl := Except.error.inj (hchoose.symm.trans hfound)
    exact ⟨line', hf, hw⟩
  · rw [hchoose] at hfound
    contradiction

/-- A job whose attempts leave nothing that could be kept fails, after it has asked. -/
theorem generate_of_breaks (hk : desk.keeps = true) (h : Breaks settings request desk line) :
    ∃ failure line', generate settings request desk line = (.error failure, desk, line') ∧
      line.wire.sent.length < line'.wire.sent.length := by
  rcases h with hhalf | ⟨key, script, plan, log, failure, hkey, hscript, hmake, hescape⟩
  · exact generate_of_half hk hhalf
  · obtain ⟨line', hg, hw⟩ := generate_of_escape hkey hscript hmake hescape
    refine ⟨failure, line', hg, ?_⟩
    rw [hw]
    exact Plan.sent_of_escape? hescape

/-- Otherwise nothing gets out of the attempts, and the desk keeps the code that is chosen. -/
theorem exists_kept {key : String} {script : Script} {plan : Plan} {log : Log}
    (ha : request.IsAccepted) (hn : ¬ Breaks settings request desk line)
    (hkey : settings.requireKey = .ok key) (hscript : desk.script request = .ok script)
    (hmake : Plan.make request script = (.ok plan, log)) :
    (plan.run settings (line.note log)).1.escape? = none ∧
      ∃ code usedFallback kept,
        plan.chooseCode (plan.run settings (line.note log)).1 = .ok (code, usedFallback) ∧
        desk.keep request.jobId code usedFallback = .ok kept := by
  have hescape : (plan.run settings (line.note log)).1.escape? = none := by
    by_contra hsome
    obtain ⟨failure, hfailure⟩ := Option.ne_none_iff_exists'.mp hsome
    exact hn (Or.inr ⟨key, script, plan, log, failure, hkey, hscript, hmake, hfailure⟩)
  obtain ⟨code, usedFallback, hchoose, hne, hmodel⟩ :=
    Plan.exists_choice hmake settings (line.note log) hescape
  have hhalf : Text.hasHalf code = false := by
    by_contra hh
    have hh : Text.hasHalf code = true := by simpa using hh
    exact hn (Or.inl ⟨key, script, plan, log, code, hkey, hscript, hmake, hmodel hh, hh⟩)
  obtain ⟨artifact, after, kept, hkeep⟩ :=
    Desk.exists_keep (Desk.isOpen_of_script hscript) ha.jobId hhalf hne
  exact ⟨hescape, code, usedFallback, _, hchoose, hkeep⟩

/-- So a job that was planned adds one version to the store of a desk that keeps code. -/
theorem generate_of_plan {key : String} {script : Script} {plan : Plan} {log : Log}
    (ha : request.IsAccepted) (hk : desk.keeps = true)
    (hn : ¬ Breaks settings request desk line) (hkey : settings.requireKey = .ok key)
    (hscript : desk.script request = .ok script)
    (hmake : Plan.make request script = (.ok plan, log)) :
    ∃ outcome line', generate settings request desk line = (.ok outcome, { desk with
        connection := desk.connection.holding (desk.connection.store.extend outcome.artifact) },
        line') ∧ outcome.artifact.jobId = request.jobId ∧
      desk.connection.store.Fits outcome.artifact := by
  obtain ⟨_, code, usedFallback, kept, hchoose, hkeep⟩ := exists_kept ha hn hkey hscript hmake
  rw [← (Plan.make_ok hmake).1] at hkeep
  rw [generate_eq_finish hkey hscript hmake]
  rcases plan.finish_cases settings desk (line.note log) with
    ⟨fault, line', herror, _⟩ | ⟨found, flag, hfound, hrest⟩
  · rw [hchoose] at herror
    contradiction
  obtain ⟨rfl, rfl⟩ := Prod.mk.inj (Except.ok.inj (hchoose.symm.trans hfound))
  rcases hrest with ⟨failure, line', herror, _⟩ | ⟨artifact, after, kept, line', hkeep', hf, _⟩
  · rw [hkeep] at herror
    contradiction
  obtain ⟨hfits, hafter⟩ := Desk.keep_keeps hk hkeep'
  refine ⟨_, line', by rw [hf, hafter], ?_, hfits⟩
  rw [(Desk.keep_ok hkeep').1, (Plan.make_ok hmake).1]

/-- A job fails before it has asked, or adds one version to the store. -/
theorem generate_of_not_breaks (ha : request.IsAccepted) (hk : desk.keeps = true)
    (hn : ¬ Breaks settings request desk line) :
    (∃ failure line', generate settings request desk line = (.error failure, desk, line') ∧
      line'.wire.sent = line.wire.sent) ∨
    ∃ outcome line', generate settings request desk line = (.ok outcome, { desk with
        connection := desk.connection.holding (desk.connection.store.extend outcome.artifact) },
        line') ∧ outcome.artifact.jobId = request.jobId ∧
      desk.connection.store.Fits outcome.artifact := by
  rcases generate_cases settings request desk line with
    ⟨failure, log, hg⟩ | ⟨key, script, plan, log, hkey, hscript, hmake, _⟩
  · exact Or.inl ⟨failure, line.note log, hg, rfl⟩
  · exact Or.inr (generate_of_plan ha hk hn hkey hscript hmake)

end Generate

namespace Sample

theorem request_accepted : request.IsAccepted :=
  ⟨.accepted none, .accepted none, ⟨.value, [
    ("job_id", .text "j"), ("script_id", .text "s"), ("target_duration", .float 1)]⟩, rfl⟩

theorem line_silent : line.wire.IsSilent := ⟨rfl, ⟨_, rfl⟩⟩

end Sample

end Storyboard
