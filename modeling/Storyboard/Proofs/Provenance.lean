import Storyboard.Proofs.Replies
import Storyboard.Tool.Basic

/-!
# Where kept code comes from

Code that is kept is the code about which the review of the last attempt spoke, or the
template's. The template's code is determined by the script, the images and the
narration; what the model wrote does not enter it.
-/

namespace Storyboard

/-- The answer on code in which no layer finds anything. -/
def Tool.cleanReport : Json := .object [
  ("passed", .bool true),
  ("layers", .object [("syntax", .list []), ("security", .list []), ("structure", .list [])])]

theorem Tool.validate_of_passed {code : String} (h : (Review.review code).passed = true) :
    Tool.validate code = Tool.cleanReport := by
  have hclean : ∀ layer ∈ Review.layers, layer.review code = ⟨true, []⟩ := by
    intro layer hl
    have hp := (Review.review_passed_iff code).mp h layer hl
    rw [Review.Layer.review, Review.Verdict.of_passed_iff] at hp
    rw [Review.Layer.review, hp]
    rfl
  have hwriting := hclean .writing (by decide)
  have hsafety := hclean .safety (by decide)
  have hshape := hclean .shape (by decide)
  simp only [Tool.validate, Review.layers, List.map_cons, List.map_nil, hwriting, hsafety, hshape]
  rfl

/-- The code of the outcome is taken from the reply to its last attempt and was found
clean, and no attempt brought forbidden code. -/
structure FromModel (outcome : Outcome) : Prop where
  taken : ∃ earlier last reply, outcome.attempts = earlier ++ [last] ∧
    last.reply = some (.text reply) ∧ outcome.artifact.code = Fence.code reply
  allowed : ∀ attempt ∈ outcome.attempts, attempt.isForbidden = false
  passed : (Review.review outcome.artifact.code).passed = true
  report : Tool.validate outcome.artifact.code = Tool.cleanReport

/-- The code of the outcome is the template's for a script and a request. -/
def FromTemplate (script : Script) (request : Request) (outcome : Outcome) : Prop :=
  Template.code script request.imageUrls request.narration frameRate =
    .ok outcome.artifact.code

section Generate

variable {settings : Settings} {request : Request} {desk after : Desk} {line line' : Model.Line}
  {outcome : Outcome}

/-- What is kept is the model's code or the template's, and the flag tells which. -/
theorem provenance_of_generate
    (h : generate settings request desk line = (.ok outcome, after, line')) :
    ∃ script, desk.script request = .ok script ∧
      (outcome.artifact.usedFallback = false → FromModel outcome) ∧
      (outcome.artifact.usedFallback = true → FromTemplate script request outcome) := by
  obtain ⟨key, script, plan, log, code, usedFallback, keptLog, _, hscript, hmake, hchoose, hkeep,
    hattempts, _, _⟩ := generate_ok h
  obtain ⟨_, hcode, hflag, _⟩ := Desk.keep_ok hkeep
  obtain ⟨hrequest, hplan⟩ := Plan.make_ok hmake
  refine ⟨script, hscript, ?_, ?_⟩
  · intro hmodel
    rcases Plan.chooseCode_ok hchoose with ⟨_, hc⟩ | ⟨rfl, _, _⟩
    · obtain ⟨earlier, last, reply, hsplit, hbefore, _, hreply, hlast, hfence, hpassed⟩ :=
        Plan.code?_eq_some hc
      have hsplit := hattempts.trans hsplit
      have hsafe : last.isForbidden = false := by
        simp [Attempt.isForbidden, hlast, Attempt.safe_of_review_passed hpassed]
      refine ⟨⟨earlier, last, reply, hsplit, hreply, hcode.trans hfence⟩, ?_, ?_, ?_⟩
      · rw [hsplit, List.forall_mem_append, List.forall_mem_singleton]
        exact ⟨fun attempt hm => (Attempt.isDecisive_eq_false_iff.mp (hbefore attempt hm)).2.1, hsafe⟩
      · rw [hcode]
        exact hpassed
      · rw [hcode]
        exact Tool.validate_of_passed hpassed
    · rw [hflag] at hmodel
      contradiction
  · intro htemplate
    rcases Plan.chooseCode_ok hchoose with ⟨rfl, _⟩ | ⟨_, _, ht⟩
    · rw [hflag] at htemplate
      contradiction
    · rw [FromTemplate, hcode, ← hplan, ← hrequest]
      exact ht

/-- A desk that keeps code holds the artifact of the outcome as the latest version. -/
theorem kept_of_generate (h : generate settings request desk line = (.ok outcome, after, line'))
    (hk : desk.keeps = true) :
    after.connection.store.codes =
        desk.connection.store.codes ++ [.ofArtifact outcome.artifact] ∧
      after.connection.store.history request.jobId =
        (desk.connection.store.history request.jobId).map (· ++ [outcome.artifact]) := by
  obtain ⟨_, _, _, _, _, _, _, _, _, _, _, hkeep, _⟩ := generate_ok h
  obtain ⟨hfits, hafter⟩ := Desk.keep_keeps hk hkeep
  rw [hafter, ← (Desk.keep_ok hkeep).1]
  exact ⟨Store.extend_codes hfits.next, Store.history_extend_self hfits⟩

end Generate

/-- Code that is kept is what the review of the last attempt found clean, or the template's;
after forbidden code it is the template's. So two runs on one script with the same images and
narration keep the same code when both fall back, whatever their models wrote. -/
theorem kept_code_provenance {settings : Settings} {request : Request} {desk after : Desk}
    {line line' : Model.Line} {outcome : Outcome}
    (h : generate settings request desk line = (.ok outcome, after, line')) :
    ∃ script, desk.script request = .ok script ∧
      (outcome.artifact.usedFallback = false → FromModel outcome) ∧
      (outcome.artifact.usedFallback = true → FromTemplate script request outcome) ∧
      ((∃ attempt ∈ outcome.attempts, attempt.isForbidden = true) →
        outcome.artifact.usedFallback = true) ∧
      (desk.keeps = true →
        after.connection.store.codes =
            desk.connection.store.codes ++ [.ofArtifact outcome.artifact] ∧
          after.connection.store.history request.jobId =
            (desk.connection.store.history request.jobId).map (· ++ [outcome.artifact])) ∧
      ∀ settings₂ request₂ desk₂ line₂ outcome₂ after₂ line₂',
        generate settings₂ request₂ desk₂ line₂ = (.ok outcome₂, after₂, line₂') →
        desk₂.script request₂ = .ok script → request₂.imageUrls = request.imageUrls →
        request₂.narration = request.narration → outcome.artifact.usedFallback = true →
        outcome₂.artifact.usedFallback = true →
        outcome₂.artifact.code = outcome.artifact.code := by
  obtain ⟨script, hscript, hmodel, htemplate⟩ := provenance_of_generate h
  refine ⟨script, hscript, hmodel, htemplate, ?_, kept_of_generate h, ?_⟩
  · rintro ⟨attempt, hm, hf⟩
    by_contra hflag
    have hallowed := (hmodel (by simpa using hflag)).allowed attempt hm
    rw [hf] at hallowed
    contradiction
  · intro settings₂ request₂ desk₂ line₂ outcome₂ after₂ line₂' h₂ hscript₂ himages hnarration
      hflag hflag₂
    obtain ⟨found, hfound, _, htemplate₂⟩ := provenance_of_generate h₂
    obtain rfl := Except.ok.inj (hscript₂.symm.trans hfound)
    have hcode := htemplate hflag
    have hcode₂ := htemplate₂ hflag₂
    rw [FromTemplate] at hcode hcode₂
    rw [himages, hnarration] at hcode₂
    exact Except.ok.inj (hcode₂.symm.trans hcode)

/-- The code of the second reply is kept as it was found clean; with no reply the template's is. -/
theorem sample_provenance :
    (∃ outcome after line', generate Sample.geminiSettings Sample.request Sample.desk
        (Sample.answers 'x') = (.ok outcome, after, line') ∧
      outcome.artifact.code = Sample.replyWith 'x' ∧ FromModel outcome ∧
      after.connection.store.history Sample.request.jobId = .ok [outcome.artifact]) ∧
    ∃ outcome after line', generate Sample.settings Sample.request Sample.desk Sample.line =
        (.ok outcome, after, line') ∧
      after.connection.store.history Sample.request.jobId = .ok [outcome.artifact] := by
  refine ⟨?model, ?template⟩
  case model =>
    obtain ⟨outcome, after, line', hg, hflag, hcode⟩ := Sample.exists_outcome
    obtain ⟨_, _, hmodel, _, _, hkept, _⟩ := kept_code_provenance hg
    obtain ⟨_, hhistory⟩ := hkept rfl
    rw [Sample.desk_history] at hhistory
    exact ⟨outcome, after, line', hg, hcode, hmodel hflag, hhistory⟩
  case template =>
    obtain ⟨outcome, after, line', hg⟩ := Sample.exists_fallback
    obtain ⟨_, _, _, _, _, hkept, _⟩ := kept_code_provenance hg
    obtain ⟨_, hhistory⟩ := hkept rfl
    rw [Sample.desk_history] at hhistory
    exact ⟨outcome, after, line', hg, hhistory⟩

end Storyboard
