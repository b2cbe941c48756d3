import Storyboard.Proofs.Delivery

/-!
# Texts that come back

A text that a Gemini service sends back is the reply of the attempt that asked, at the first
request. So what the attempts of a job come to can be read off such texts: code that passes is
kept, and what is wrong with other code is what the next attempt is told.
-/

namespace Storyboard

namespace Model

variable {settings : Settings} {line : Line} {key content : String} {rest : List Reply}

theorem Gemini.content_of_text (h : content ≠ "") :
    Gemini.Answer.content ⟨[⟨some (some [⟨some content, false⟩])⟩], some content⟩ =
      .ok content := by
  have hne : content.isEmpty = false := by simpa using h
  have htexts : [(⟨some content, false⟩ : Part)].filterMap Gemini.Part.answerText? = [content] := by
    simp only [List.filterMap_cons, Gemini.Part.answerText?, Option.filter_some, hne]
    rfl
  have hone : String.intercalate "\n" [content] = content := rfl
  simp only [Gemini.Answer.content, Gemini.Answer.parts, bind, Except.bind, htexts, hone]
  simp [hne, pure, Except.pure]

/-- A text that comes back is the content of the answer. -/
theorem Line.ask_of_text (hp : settings.provider = .gemini)
    (hkey : settings.requireKey = .ok key) (hw : line.wire.replies = .text content :: rest)
    (hne : content ≠ "") (prompts : Prompts) :
    (line.ask settings .none prompts).1 = .ok (.text content) ∧
      (line.ask settings .none prompts).2.wire.replies = rest := by
  have hlimits : Gemini.checkLimits (Overrides.none.question settings prompts) =
      .ok (Overrides.none.question settings prompts) := rfl
  have hclient : (line.withClient key).wire.replies = .text content :: rest := by
    rw [line.withClient_wire, hw]
  have hsend : Gemini.send key (Overrides.none.question settings prompts)
      (line.withClient key).wire =
        (.ok ⟨[⟨some (some [⟨some content, false⟩])⟩], some content⟩,
          { (line.withClient key).wire with
            replies := rest
            sent := (line.withClient key).wire.sent ++
              [⟨.gemini key, Overrides.none.question settings prompts⟩] }) := by
    simp only [Gemini.send, Wire.send, hclient, Gemini.receive]
  simp only [ask, hkey, hp, askGemini, hlimits, resume, RetryPolicy.run,
    RetryPolicy.sendFrom_ok hsend, Except.bind, Gemini.content_of_text hne, Except.map, and_self]

end Model

namespace Plan

variable {plan : Plan} {settings : Settings} {line : Model.Line} {key reply : String}
  {rest : List Model.Reply}

theorem runAttempt_of_text (hp : settings.provider = .gemini)
    (hkey : settings.requireKey = .ok key) (hw : line.wire.replies = .text reply :: rest)
    (hne : reply ≠ "") (state : LoopState) :
    (plan.runAttempt settings state line).1 = ⟨state.attempt, (plan.promptsFor state).user,
        some (.text reply), some (Fence.code reply), some (Review.review (Fence.code reply)),
        none, none⟩ ∧
      (plan.runAttempt settings state line).2.wire.replies = rest := by
  have hnoted : (line.note [plan.attemptLog settings state]).wire.replies = .text reply :: rest := hw
  have hask := Model.Line.ask_of_text hp hkey hnoted hne (plan.promptsFor state)
  refine ⟨?_, hask.2⟩
  change (Attempt.ofAnswer _ _ (Model.Line.ask _ settings .none _).1).1 = _
  rw [hask.1]
  rfl

section Texts

variable {texts : List String} {number : Nat}

/-- The attempts of a job take the texts one by one. -/
theorem replies_before (hp : settings.provider = .gemini) (hkey : settings.requireKey = .ok key)
    (hw : line.wire.replies = texts.map .text) (hne : ∀ text ∈ texts, text ≠ "")
    (hle : number ≤ texts.length) :
    (plan.before settings line number).2.wire.replies = (texts.drop number).map .text := by
  induction number with
  | zero => exact hw
  | succ number ih =>
    have hlt : number < texts.length := hle
    have hdrop := List.drop_eq_getElem_cons hlt
    have hbefore := ih (Nat.le_of_lt hlt)
    rw [hdrop, List.map_cons] at hbefore
    exact (runAttempt_of_text hp hkey hbefore (hne _ (List.getElem_mem hlt)) _).2

/-- The attempt that takes a text is about the code in it. -/
theorem attemptAt_of_text (hp : settings.provider = .gemini)
    (hkey : settings.requireKey = .ok key) (hw : line.wire.replies = texts.map .text)
    (hne : ∀ text ∈ texts, text ≠ "") (h : texts[number]? = some reply) :
    plan.attemptAt settings line number =
      ⟨number, (plan.promptsFor (plan.before settings line number).1).user, some (.text reply),
        some (Fence.code reply), some (Review.review (Fence.code reply)), none, none⟩ := by
  obtain ⟨hlt, rfl⟩ := List.getElem?_eq_some_iff.mp h
  have hdrop := List.drop_eq_getElem_cons hlt
  have hbefore := plan.replies_before hp hkey hw hne (Nat.le_of_lt hlt)
  rw [hdrop, List.map_cons] at hbefore
  rw [attemptAt, (runAttempt_of_text hp hkey hbefore (hne _ (List.getElem_mem hlt)) _).1,
    before_attempt]

/-- A job stops with the first text whose code passes, if no earlier one is forbidden, and brings
forth its code. -/
theorem code?_of_texts (hp : settings.provider = .gemini) (hkey : settings.requireKey = .ok key)
    (hw : line.wire.replies = texts.map .text) (hne : ∀ text ∈ texts, text ≠ "")
    (h : texts[number]? = some reply) (hlt : number < settings.maxAttempts.toNat)
    (hpassed : (Review.review (Fence.code reply)).passed = true)
    (hearlier : ∀ text ∈ texts.take number, (Review.review (Fence.code text)).passed = false ∧
      (Review.Layer.safety.review (Fence.code text)).passed = true) :
    Stops (plan.attemptAt settings line) (rounds settings) number ∧
      (plan.run settings line).1.code? = some (Fence.code reply) := by
  have hlast := plan.attemptAt_of_text hp hkey hw hne h
  have hpass : (plan.attemptAt settings line number).passed = true := by
    rw [hlast]
    exact hpassed
  have hs : Stops (plan.attemptAt settings line) (rounds settings) number := by
    refine ⟨by rw [rounds_eq (by omega)]; exact hlt, fun earlier he => ?_, Or.inl ?_⟩
    · obtain ⟨hlength, _⟩ := List.getElem?_eq_some_iff.mp h
      have htext := List.getElem?_eq_getElem (Nat.lt_trans he hlength)
      obtain ⟨hnot, hsafe⟩ := hearlier _
        (List.mem_take_iff_getElem.mpr ⟨earlier, by omega, rfl⟩)
      rw [plan.attemptAt_of_text hp hkey hw hne htext]
      exact Attempt.isDecisive_eq_false_iff.mpr
        ⟨hnot, by simp only [Attempt.isForbidden, Option.any_some, hsafe]; rfl, rfl⟩
    · simp only [Attempt.isDecisive, hpass, Bool.true_or]
  refine ⟨hs, ?_⟩
  rw [code?_of_stops hs, if_pos hpass, hlast]

end Texts

end Plan

namespace Sample

/-- Settings for the Gemini service. -/
def geminiSettings : Settings := { Settings.standard with provider := .gemini, geminiKey := "k" }

/-- A line on which the model sends texts back, and nothing more. -/
def answering (texts : List String) : Model.Line :=
  ⟨⟨texts.map .text, .noContent .gemini, 0, []⟩, ⟨[], [], []⟩, []⟩

/-- Code of a composition with a remark in it. -/
def codeWith (remark : Char) : List Char :=
  "const { AbsoluteFill } = Remotion;\n//".toList ++ [remark] ++
    "\nconst MyVideo = () => (<AbsoluteFill></AbsoluteFill>);".toList ++ List.replicate 450 ' ' ++
    "\nreturn MyVideo;".toList

/-- A lone half. -/
def half : Char := Text.halfChar 0xD800

theorem codeWith_kept : ∀ remark ∈ ['x', half],
    Fence.codeChars (codeWith remark) = codeWith remark := by
  have hall : (['x', half].all fun remark =>
      decide (Fence.codeChars (codeWith remark) = codeWith remark)) = true := by decide +kernel
  exact fun remark hm => of_decide_eq_true (List.all_eq_true.mp hall remark hm)

theorem codeWith_clean : ∀ remark ∈ ['x', half], ∀ layer ∈ Review.layers,
    layer.issues (codeWith remark) = [] := by
  have hall : (['x', half].all fun remark =>
      decide (∀ layer ∈ Review.layers, layer.issues (codeWith remark) = [])) = true := by
    decide +kernel
  exact fun remark hm => of_decide_eq_true (List.all_eq_true.mp hall remark hm)

/-- A reply that is code with a remark in it. -/
def replyWith (remark : Char) : String := String.ofList (codeWith remark)

/-- A reply that is no code. -/
def chatter : String := "no code"

theorem code_replyWith {remark : Char} (h : remark ∈ ['x', half]) :
    Fence.code (replyWith remark) = replyWith remark := by
  rw [Fence.code, replyWith, String.toList_ofList, codeWith_kept remark h]

theorem review_replyWith {remark : Char} (h : remark ∈ ['x', half]) :
    (Review.review (replyWith remark)).passed = true := by
  refine (Review.review_passed_iff _).mpr fun layer hm => ?_
  rw [Review.Layer.review, replyWith, String.toList_ofList, codeWith_clean remark h layer hm]
  rfl

theorem review_chatter : (Review.review (Fence.code chatter)).passed = false ∧
    (Review.Layer.safety.review (Fence.code chatter)).passed = true := by decide +kernel

theorem texts_ne {remark : Char} (h : remark ∈ ['x', half]) :
    ∀ text ∈ [chatter, replyWith remark], text ≠ "" := by
  have hreply : replyWith remark ≠ "" := by
    intro he
    have hpassed := review_replyWith h
    rw [he, Plan.review_empty] at hpassed
    exact Bool.false_ne_true hpassed
  simp only [List.forall_mem_cons, List.not_mem_nil, false_implies, implies_true, and_true]
  exact ⟨by decide, hreply⟩

/-- A line on which the model sends no code, and then code with a remark in it. -/
def answers (remark : Char) : Model.Line := answering [chatter, replyWith remark]

/-- A job keeps the code of the second reply, for the first one is not forbidden. -/
theorem code?_answers {remark : Char} (h : remark ∈ ['x', half]) (plan : Plan) (log : Log) :
    Plan.Stops (plan.attemptAt geminiSettings ((answers remark).note log))
        (Plan.rounds geminiSettings) 1 ∧
      (plan.run geminiSettings ((answers remark).note log)).1.code? = some (replyWith remark) := by
  have hkey : geminiSettings.requireKey = .ok "k" := rfl
  have hw : ((answers remark).note log).wire.replies = [chatter, replyWith remark].map .text := rfl
  have hsecond : [chatter, replyWith remark][1]? = some (replyWith remark) := rfl
  have hpassed : (Review.review (Fence.code (replyWith remark))).passed = true := by
    rw [code_replyWith h, review_replyWith h]
  have hcode := plan.code?_of_texts rfl hkey hw (texts_ne h) hsecond (by decide) hpassed
    (List.forall_mem_singleton.mpr review_chatter)
  rwa [code_replyWith h] at hcode

theorem hasHalf_replyWith : Text.hasHalf (replyWith 'x') = false ∧
    Text.hasHalf (replyWith half) = true := by
  simp only [Text.hasHalf, replyWith, String.toList_ofList]
  decide +kernel

/-- With a lone half in the second reply there is nothing that could be kept. -/
theorem acceptsHalf_answers : AcceptsHalf geminiSettings request desk (answers half) := by
  obtain ⟨plan, log, hmake⟩ := exists_plan
  have hmem : half ∈ ['x', half] := List.mem_cons_of_mem _ List.mem_cons_self
  have hcode := (code?_answers hmem plan log).2
  exact ⟨"k", script, plan, log, _, rfl, desk_script, hmake, hcode, hasHalf_replyWith.2⟩

theorem not_breaks_answers : ¬ Breaks geminiSettings request desk (answers 'x') := by
  obtain ⟨plan, log, hmake⟩ := exists_plan
  have hcode := (code?_answers List.mem_cons_self plan log).2
  exact not_breaks_of_code? desk_script hmake hcode hasHalf_replyWith.1

/-- The job keeps a version, and it is the code of the second reply. -/
theorem exists_outcome : ∃ outcome after line',
    generate geminiSettings request desk (answers 'x') = (.ok outcome, after, line') ∧
      outcome.artifact.usedFallback = false ∧ outcome.artifact.code = replyWith 'x' := by
  obtain ⟨plan, log, hmake⟩ := exists_plan
  have hkey : geminiSettings.requireKey = .ok "k" := rfl
  obtain ⟨outcome, line', hg, _⟩ :=
    generate_of_plan request_accepted rfl not_breaks_answers hkey desk_script hmake
  obtain ⟨_, _, plan', log', code, usedFallback, _, _, hscript', hmake', hchoose, hkeep, _⟩ :=
    generate_ok hg
  obtain rfl := Except.ok.inj (desk_script.symm.trans hscript')
  rw [hmake] at hmake'
  simp only [Prod.mk.injEq, Except.ok.injEq] at hmake'
  obtain ⟨rfl, rfl⟩ := hmake'
  have hx : 'x' ∈ ['x', half] := List.mem_cons_self
  have hcode := (code?_answers hx plan log).2
  obtain ⟨_, hkept, hflag, _⟩ := Desk.keep_ok hkeep
  rcases Plan.chooseCode_ok hchoose with ⟨rfl, hc⟩ | ⟨_, hc, _⟩
  · exact ⟨outcome, _, line', hg, hflag, hkept.trans (Option.some.inj (hc.symm.trans hcode))⟩
  · exact absurd (hcode.symm.trans hc) (Option.some_ne_none _)

/-- Without a reply the job still has an outcome. -/
theorem exists_fallback : ∃ outcome after line',
    generate settings request desk line = (.ok outcome, after, line') := by
  obtain ⟨plan, log, hmake⟩ := exists_plan
  have hkey : settings.requireKey = .ok "k" := rfl
  obtain ⟨outcome, line', hg, _⟩ := generate_of_plan request_accepted rfl
    (not_breaks_of_silent line_silent) hkey desk_script hmake
  exact ⟨outcome, _, line', hg⟩

end Sample

end Storyboard
