import Storyboard.Proofs.Delivery
import Storyboard.Proofs.Filling

/-!
# What becomes of a credential

The settings take the text of the provider's variable as it is after filling in, and a job
lacks its credential only if that text is empty. Filling in takes more for a missing value:
a blank text, or one that only refers to the variable itself. Where the file does not
replace such a text, it is the credential, and the requests of a job carry it.
-/

namespace Storyboard

open Checking
open Results (bind_ok_iff mapError_ok_iff bind_error_iff map_error_iff mapError_error_iff)

namespace Settings

variable {environment : Environment} {file : Option String} {settings : Settings}

/-- The key of the chosen provider is the text of its variable. -/
theorem key_fromEnvironment (h : fromEnvironment environment = .ok settings) :
    settings.key = environment.valueOr settings.provider.keyVariable "" := by
  rw [fromEnvironment] at h
  cases hfields : fields environment with
  | error fault => simp [hfields] at h
  | ok entries =>
    rw [hfields] at h
    -- The seven numbers come first; the entries are a closed list around them.
    iterate 7 obtain ⟨_, _, hfields⟩ := bind_ok_iff.mp hfields
    obtain rfl := Except.ok.inj hfields
    have hcheck := orReport_eq_ok_iff.mp (mapError_ok_iff.mp h)
    iterate 14
      replace hcheck := seq_eq_accepted_iff.mp hcheck
      obtain ⟨_, _, hcheck, _, rfl⟩ := hcheck
    obtain ⟨_, gemini, hmodel, hgemini, rfl⟩ := seq_eq_accepted_iff.mp hcheck
    obtain ⟨_, _, hurl, _, rfl⟩ := seq_eq_accepted_iff.mp hmodel
    obtain ⟨_, _, hkey, _, rfl⟩ := seq_eq_accepted_iff.mp hurl
    obtain ⟨_, openRouter, hprovider, hopen, rfl⟩ := seq_eq_accepted_iff.mp hkey
    obtain ⟨provider, _, rfl⟩ := mapped_eq_accepted_iff.mp hprovider
    cases provider with
    | openRouter => exact (Checked.accepted.inj hopen).symm
    | gemini => exact (Checked.accepted.inj hgemini).symm

theorem key_load (h : (load environment file).settings = .ok settings) :
    settings.key = environment.remaining (Environment.assignmentsOf file)
      settings.provider.keyVariable := by
  rw [load] at h
  split at h
  · contradiction
  · next hstopped =>
    have hs : (environment.fill (Environment.assignmentsOf file)).stopped = false :=
      (Bool.not_eq_true _).mp hstopped
    rw [key_fromEnvironment h]
    exact Environment.valueOr_fill (Environment.nodup_assignmentsOf file) hs _

end Settings

namespace Model

/-- A request to this endpoint carries the key, unless its address has a login. -/
inductive Endpoint.Bears (key : String) : Endpoint → Prop
  | header {url : String} {headers : List (String × String)} {timeout : Option Float}
      (h : headers.lookup "Authorization" = some s!"Bearer {key}") :
      Bears key (.openRouter url headers timeout)
  | login {url : String} {headers : List (String × String)} {timeout : Option Float}
      (address : Address) (hc : address.credential?.isSome = true)
      (h : headers.lookup "Authorization" = address.credential?) :
      Bears key (.openRouter url headers timeout)
  | client : Bears key (.gemini key)

/-- Requests were only added, and each of them carries the key. -/
def Wire.Carried (key : String) (before after : Wire) : Prop :=
  ∃ requests, after.sent = before.sent ++ requests ∧
    ∀ request ∈ requests, request.endpoint.Bears key

namespace Wire.Carried

variable {key : String} {first second third : Wire}

theorem refl (wire : Wire) : Carried key wire wire := ⟨[], by simp, by simp⟩

theorem trans (h : Carried key first second) (h' : Carried key second third) :
    Carried key first third := by
  obtain ⟨requests, hsent, hbears⟩ := h
  obtain ⟨more, hsent', hbears'⟩ := h'
  refine ⟨requests ++ more, by rw [hsent', hsent, List.append_assoc], ?_⟩
  intro request hm
  rcases List.mem_append.mp hm with hm | hm
  · exact hbears request hm
  · exact hbears' request hm

end Wire.Carried

theorem Wire.send_carried {key : String} {request : Request} (h : request.endpoint.Bears key)
    (wire : Wire) : Wire.Carried key wire (wire.send request).2 := by
  refine ⟨[request], ?_, by simpa using h⟩
  unfold Wire.send
  split <;> rfl

theorem OpenRouter.signed_bears (settings : Settings) (key : String) (address : Address)
    (url : String) (timeout : Option Float) :
    (Endpoint.openRouter url (signed address (headers settings key)) timeout).Bears key := by
  unfold signed
  split
  · next credential hc =>
    refine .login address (by simp [hc]) ?_
    rw [Keyed.lookup_put, if_pos rfl, hc]
  · exact .header rfl

theorem OpenRouter.send_carried (settings : Settings) (key url : String)
    (timeout : Option Float) (question : Question) (wire : Wire) :
    Wire.Carried key wire (send url (headers settings key) timeout question wire).2 := by
  cases hdial : dial url (headers settings key) question with
  | error failure =>
    simp only [send, hdial]
    exact .refl wire
  | ok address =>
    simp only [send, hdial]
    exact wire.send_carried (signed_bears settings key address _ _)

theorem RetryPolicy.sendFrom_carried (policy : RetryPolicy) {key : String}
    {send : Wire → Except Failure α × Wire} (h : ∀ wire, Wire.Carried key wire (send wire).2)
    (more number : Nat) (wire : Wire) (pacing : Pacing) :
    Wire.Carried key wire (policy.sendFrom send more number wire pacing).2.1 := by
  refine policy.sendFrom_induction
    (motive := fun _ before (_ : Except Failure α) after => Wire.Carried key before after)
    (fun _ => h) (fun hfirst hsecond => ?_) (fun _ hfirst => ?_) more number wire pacing
  · exact hfirst.trans hsecond
  · exact hfirst

/-- Requests carry the key, and no client was made with another one. -/
structure Line.Uses (key : String) (before after : Line) : Prop where
  wire : before.wire.Carried key after.wire
  clients : ∀ other ∈ after.clients, other ∈ before.clients ∨ other = key

namespace Line.Uses

variable {key : String} {first second third : Line}

theorem of_clients (hw : first.wire.Carried key second.wire) (hc : second.clients = first.clients) :
    Uses key first second := ⟨hw, fun _ hm => Or.inl (hc ▸ hm)⟩

theorem refl (line : Line) : Uses key line line := of_clients (.refl _) rfl

theorem trans (h : Uses key first second) (h' : Uses key second third) :
    Uses key first third := by
  refine ⟨h.wire.trans h'.wire, fun other hm => ?_⟩
  rcases h'.clients other hm with hm | he
  · exact h.clients other hm
  · exact Or.inr he

end Line.Uses

theorem Line.withClient_uses (line : Line) (key : String) :
    Line.Uses key line (line.withClient key) := by
  refine ⟨by rw [line.withClient_wire]; exact .refl _, fun other hm => ?_⟩
  unfold withClient at hm
  split at hm
  · exact Or.inl hm
  · simpa using hm

/-- A question to a provider uses the key of the settings. -/
theorem Line.ask_uses (line : Line) (settings : Settings) (overrides : Overrides)
    (prompts : Prompts) : Line.Uses settings.key line (line.ask settings overrides prompts).2 := by
  unfold ask
  cases hkey : settings.requireKey with
  | error failure => exact .refl line
  | ok key =>
    have hk : key = settings.key := by
      unfold Settings.requireKey at hkey
      split at hkey
      · contradiction
      · exact (Except.ok.inj hkey).symm
    subst hk
    cases settings.provider with
    | openRouter =>
      exact .of_clients (RetryPolicy.sendFrom_carried _
        (OpenRouter.send_carried settings settings.key _ _ _) _ 0 _ _) rfl
    | gemini =>
      have hclient := line.withClient_uses settings.key
      dsimp only [askGemini]
      split
      · exact hclient
      · have hsend (question : Question) (wire : Wire) :
            Wire.Carried settings.key wire (Gemini.send settings.key question wire).2 :=
          wire.send_carried .client
        exact hclient.trans
          (.of_clients (RetryPolicy.sendFrom_carried _ (hsend _) _ 0 _ _) rfl)

end Model

namespace Plan

variable {plan : Plan} {settings : Settings}

theorem Runs.uses {state : LoopState} {line line' : Model.Line} {attempts : List Attempt}
    {phases : List Phase} (h : plan.Runs settings state line attempts phases line') :
    Model.Line.Uses settings.key line line' := by
  induction h with
  | ended _ => exact .refl _
  | attempt _ _ _ ih =>
    have hask (state : LoopState) (line : Model.Line) :
        Model.Line.Uses settings.key line (plan.runAttempt settings state line).2 := by
      have h := (line.note [plan.attemptLog settings state]).ask_uses settings .none
        (plan.promptsFor state)
      exact ⟨h.wire, h.clients⟩
    exact (hask _ _).trans ih
  | abort _ _ _ ih => exact ih

theorem finish_clients (plan : Plan) (settings : Settings) (desk : Desk) (line : Model.Line) :
    (plan.finish settings desk line).2.2.clients = (plan.run settings line).2.clients := by
  unfold finish
  dsimp only
  split
  · rfl
  · split <;> rfl

end Plan

section Generate

variable {settings : Settings} {request : Request} {desk : Desk} {line : Model.Line}

theorem generate_uses (settings : Settings) (request : Request) (desk : Desk)
    (line : Model.Line) :
    Model.Line.Uses settings.key line (generate settings request desk line).2.2 := by
  rcases generate_cases settings request desk line with
    ⟨failure, log, hg⟩ | ⟨key, script, plan, log, _, _, _, hg⟩
  · rw [hg]
    exact .of_clients (.refl _) rfl
  · rw [hg]
    obtain ⟨_, _, hruns⟩ := plan.run_runs settings (line.note log)
    have huses := hruns.uses
    refine ⟨?_, ?_⟩
    · rw [plan.finish_wire]
      exact huses.wire
    · rw [plan.finish_clients]
      exact huses.clients

/-- A job without a credential fails at once, whatever the store is. -/
theorem generate_of_no_key (h : settings.key = "") :
    generate settings request desk line =
      (.error (.keyMissing settings.provider), desk, line) := by
  have hkey : settings.requireKey = .error (.keyMissing settings.provider) := by
    rw [Settings.requireKey, if_pos (by rw [h]; rfl)]
  rw [generate, hkey]
  rfl

/-- A rejected value is not a matter of credentials. -/
theorem orReport_family {check : Checked α} {title : String} {origin : Origin} {failure : Failure}
    (h : (check.orReport title origin).mapError .rejected = .error failure) :
    failure.family = .other := by
  obtain ⟨_, _, rfl⟩ := mapError_error_iff.mp h
  rfl

theorem Json.key_family {text : String} {failure : Failure}
    (h : (Json.text text).key = .error failure) : failure.family = .other := by
  rw [Json.key] at h
  split at h
  · obtain rfl := Except.error.inj h
    rfl
  · contradiction

theorem Desk.access_family {connection : Connection} {failure : Failure}
    (h : connection.access = .error failure) : failure.family = .other := by
  rw [Connection.access] at h
  split at h
  · contradiction
  · obtain rfl := Except.error.inj h
    rfl

theorem Desk.script_family {failure : Failure} (h : desk.script request = .error failure) :
    failure.family ≠ .credential := by
  rcases bind_error_iff.mp h with haccess | ⟨store, _, hfound⟩
  · simp [access_family haccess]
  rcases bind_error_iff.mp hfound with hlookup | ⟨found, _, hnone⟩
  · rcases bind_error_iff.mp hlookup with hkey | ⟨id, _, hscript⟩
    · simp [Json.key_family hkey]
    · cases id with
      | none => contradiction
      | some id =>
        change store.script? id = .error failure at hscript
        rw [Store.script?] at hscript
        split at hscript
        · contradiction
        · simp [orReport_family (map_error_iff.mp hscript)]
  · cases found with
    | some script => contradiction
    | none =>
      obtain rfl := Except.error.inj hnone
      exact Family.noConfusion

theorem Store.update_family {store : Store} {now : Moment} {jobId code : String}
    {usedFallback : Bool} {failure : Failure}
    (h : store.update now (.text jobId) (.text code) (.bool usedFallback) = .error failure) :
    failure.family = .other := by
  rw [update_eq_approve] at h
  rcases bind_error_iff.mp (map_error_iff.mp h) with hkey | ⟨_, _, hreport⟩
  · exact Json.key_family hkey
  · exact orReport_family hreport

theorem Desk.keep_family {jobId code : String} {usedFallback : Bool} {failure : Failure}
    (h : desk.keep jobId code usedFallback = .error failure) : failure.family = .other := by
  cases hk : desk.keeps with
  | true =>
    rw [keep_of_keeps hk] at h
    rcases bind_error_iff.mp h with haccess | ⟨store, _, hupdate⟩
    · exact access_family haccess
    · exact Store.update_family (map_error_iff.mp hupdate)
  | false =>
    rw [keep_of_not_keeps hk] at h
    exact Store.update_family (map_error_iff.mp h)

theorem Plan.chooseCode_family {plan : Plan} {failure : Failure}
    (h : plan.chooseCode (plan.run settings line).1 = .error failure) : failure.family = .other := by
  cases he : (plan.run settings line).1.escape? with
  | some escaped =>
    simp only [chooseCode, he, Except.error.injEq] at h
    exact h ▸ escape?_family he
  | none =>
    cases hc : (plan.run settings line).1.code? with
    | some code => simp [chooseCode, he, hc] at h
    | none =>
      simp only [chooseCode, he, hc] at h
      obtain ⟨_, _, rfl⟩ := mapError_error_iff.mp h
      rfl

theorem Plan.finish_family {plan : Plan} {failure : Failure}
    (h : (plan.finish settings desk line).1 = .error failure) : failure.family = .other := by
  rcases plan.finish_cases settings desk line with
    ⟨other, line', hchoose, hf, _⟩ | ⟨code, usedFallback, _, hrest⟩
  · rw [hf] at h
    obtain rfl := Except.error.inj h
    exact chooseCode_family hchoose
  rcases hrest with ⟨other, line', hkeep, hf, _⟩ | ⟨artifact, after, _, line', _, hf, _⟩
  · rw [hf] at h
    obtain rfl := Except.error.inj h
    exact Desk.keep_family hkeep
  · rw [hf] at h
    contradiction

/-- A job with a text for its credential does not fail for lack of one. -/
theorem generate_of_key (h : settings.key ≠ "") {failure : Failure}
    (hg : (generate settings request desk line).1 = .error failure) :
    failure.family ≠ .credential := by
  have hkey : settings.requireKey = .ok settings.key := by
    rw [Settings.requireKey, if_neg (by simpa using h)]
  cases hscript : desk.script request with
  | error other =>
    simp only [generate, hkey, Except.bind, hscript, Except.error.injEq] at hg
    exact hg ▸ Desk.script_family hscript
  | ok script =>
    cases hmake : Plan.make request script with
    | mk plan log =>
      cases plan with
      | error fault =>
        simp only [generate, hkey, Except.bind, hscript, hmake, Except.error.injEq] at hg
        exact hg ▸ Family.noConfusion
      | ok plan =>
        rw [generate_eq_finish hkey hscript hmake] at hg
        simp [Plan.finish_family hg]

end Generate

/-- What settings with this text for a credential do. -/
structure KeyDecides (settings : Settings) (text : String) : Prop where
  key : settings.key = text
  missing : text = "" → ∀ request desk line,
    generate settings request desk line = (.error (.keyMissing settings.provider), desk, line)
  present : text ≠ "" → ∀ request desk line failure,
    (generate settings request desk line).1 = .error failure → failure.family ≠ .credential
  carried : ∀ request desk line,
    Model.Line.Uses text line (generate settings request desk line).2.2

/-- The credential is what filling in left in the provider's variable. A job lacks it only
if that is the empty text. A text that counts as unset on both sides may be left, and then
it is sent. -/
theorem load_decides_key {environment : Environment} {file : Option String} {settings : Settings}
    (h : (Settings.load environment file).settings = .ok settings) :
    let name := settings.provider.keyVariable
    let assignments := Environment.assignmentsOf file
    KeyDecides settings (environment.remaining assignments name) ∧
      (environment.lacks name = true → assignments.lacks name = true →
        isPlaceholder name (environment.remaining assignments name) = true ∧
        environment.remaining assignments name =
          (assignments.lookup name).getD (environment.valueOr name "")) := by
  intro name assignments
  have hkey : settings.key = environment.remaining assignments name := Settings.key_load h
  refine ⟨⟨hkey, ?_, ?_, ?_⟩, ?_⟩
  · intro hempty request desk line
    exact generate_of_no_key (hkey.trans hempty)
  · intro hne request desk line failure hg
    exact generate_of_key (hkey ▸ hne) hg
  · intro request desk line
    rw [← hkey]
    exact generate_uses settings request desk line
  · intro henv hfile
    refine ⟨Environment.isPlaceholder_remaining henv hfile, ?_⟩
    rw [Environment.remaining, if_pos henv]
    rfl

namespace Sample

/-- A variable that only refers to itself. -/
def dangling : Environment := [("OPENROUTER_API_KEY", "$\x7bOPENROUTER_API_KEY\x7d")]

end Sample

/-- A reference that nothing resolves counts as unset, but a job takes it for its credential
and comes to an outcome. -/
theorem dangling_reference_is_used :
    ∃ settings, (Settings.load Sample.dangling none).settings = .ok settings ∧
      Sample.dangling.lacks settings.provider.keyVariable = true ∧
      KeyDecides settings "$\x7bOPENROUTER_API_KEY\x7d" ∧
      ∃ outcome after line', generate settings Sample.request Sample.desk Sample.line =
        (.ok outcome, after, line') := by
  have hload : ∃ settings, (Settings.load Sample.dangling none).settings = .ok settings ∧
      settings.provider = .openRouter := ⟨_, rfl, rfl⟩
  obtain ⟨settings, hload, hprovider⟩ := hload
  have hdecides := (load_decides_key hload).1
  rw [hprovider] at hdecides
  have hkey : settings.requireKey = .ok settings.key := by
    rw [Settings.requireKey, if_neg (by rw [hdecides.key]; decide)]
  obtain ⟨plan, log, hmake⟩ := Sample.exists_plan
  have hsilent : ¬ Breaks settings Sample.request Sample.desk Sample.line :=
    not_breaks_of_silent Sample.line_silent
  obtain ⟨outcome, line', hg, _⟩ :=
    generate_of_plan Sample.request_accepted rfl hsilent hkey Sample.desk_script hmake
  exact ⟨settings, hload, by rw [hprovider]; decide, hdecides, outcome, _, line', hg⟩

end Storyboard
