import Storyboard.Host
import Storyboard.Proofs.Moments

/-!
# When a component is built

A use of a composition that needs its component asks the host until something is kept: a
component, or a failure that tells its message. What is kept serves all later uses, whatever the
host would answer another time and however the component behaves. One equation carries this:
after any uses the site of a composition depends on nothing but how many of them needed the
component. So the host is asked once at most exactly if its first answer is kept; a host that
first fails without telling a message is asked again.
-/

namespace Storyboard

variable {σ γ : Type}

/-- What a host was asked for: code with the names of its parameters. -/
abbrev Requests := List (String × List String)

/-- The host with a record of what it was asked for. -/
def Host.recorded (host : Host σ γ) : Host (σ × Requests) γ := fun code names (state, requests) =>
  let (answer, state) := host code names state
  (answer, state, requests ++ [(code, names)])

namespace Composition

/-- What is done with a composition. A component may take every call in another way. -/
inductive Use (γ : Type) where
  | build
  | call (apply : γ → List Json → Except Failure Json) (arguments : List Json)
  | isBuilt
  | code

/-- What a use gives. -/
inductive Gain (γ : Type) where
  | component (result : Except Failure (Option γ))
  | answer (result : Except Failure Json)
  | built (value : Bool)
  | code (text : String)

/-- A composition, its host, and what has been reported. -/
structure Site (σ γ : Type) where
  composition : Composition γ
  host : σ
  log : Log

/-- The site after a step. -/
def Site.take (site : Site σ γ) (step : Step σ γ α) : Site σ γ :=
  ⟨step.composition, step.host, site.log ++ step.log⟩

/-- What a use gives, and the site after it. -/
def Use.on (host : Host σ γ) (use : Use γ) (site : Site σ γ) : Gain γ × Site σ γ :=
  match use with
  | .build =>
    let step := site.composition.component host site.host
    (.component step.result, site.take step)
  | .call apply arguments =>
    let step := site.composition.run host apply arguments site.host
    (.answer step.result, site.take step)
  | .isBuilt => (.built site.composition.isBuilt, site)
  | .code => (.code site.composition.artifact.code, site)

/-- The site after uses, one after another. -/
def Site.after (host : Host σ γ) (site : Site σ γ) (uses : List (Use γ)) : Site σ γ :=
  uses.foldl (fun site use => (use.on host site).2) site

/-- The use needs the component: it builds it, or calls it with six arguments. -/
def Use.needs : Use γ → Bool
  | .build => true
  | .call _ arguments => arguments.length == 6
  | .isBuilt => false
  | .code => false

/-- What a use gives if `outcome` is what came of asking for the component; `built` tells whether
something is kept. -/
def Use.due (artifact : Artifact) (outcome : Except Failure (Option γ)) (built : Bool) :
    Use γ → Gain γ
  | .build => .component outcome
  | .call apply arguments =>
    if arguments.length = 6 then
      .answer (outcome.bind fun
        | some component => apply component arguments
        | none => .error .notRunnable)
    else .answer (.error (.argumentCount hostParameters arguments.length))
  | .isBuilt => .built built
  | .code => .code artifact.code

/-- The site of a new composition whose host nobody has asked for anything. -/
def opening (artifact : Artifact) (state : σ) : Site (σ × Requests) γ :=
  ⟨ofArtifact artifact, (state, []), []⟩

/-- What stays of an answer, and what is reported of it. -/
structure Kept (γ : Type) where
  outcome : Except Failure γ
  log : Log

/-- What a composition keeps of an answer: a component, or a failure that tells its message. -/
def kept? (artifact : Artifact) : Except Failure (Option γ) → Option (Kept γ)
  | .ok none => none
  | .ok (some component) => some ⟨.ok component, []⟩
  | .error failure =>
    match failure.told with
    | .error _ => none
    | .ok message => some ⟨.error (buildFailure artifact message), buildLog artifact message⟩

/-- What the use gets that asked for the answer. -/
def gained (artifact : Artifact) : Except Failure (Option γ) → Except Failure (Option γ)
  | .ok component => .ok component
  | .error failure =>
    match failure.told with
    | .error other => .error other
    | .ok message => .error (buildFailure artifact message)

/-- The state of a component of which this is kept. -/
def Kept.build (kept : Kept γ) : Build γ :=
  match kept.outcome with
  | .ok component => .ready component
  | .error failure => .failed failure

/-- The host after so many requests for the component. -/
def hostAfter (host : Host σ γ) (artifact : Artifact) (state : σ) : Nat → σ
  | 0 => state
  | count + 1 => (host artifact.code hostParameters (hostAfter host artifact state count)).2

/-- The answer to the request with this number, counted from zero. -/
def answerTo (host : Host σ γ) (artifact : Artifact) (state : σ) (number : Nat) :
    Except Failure (Option γ) :=
  (host artifact.code hostParameters (hostAfter host artifact state number)).1

/-- The number of the first of so many answers of which something is kept, and what is kept. -/
def firstKept? (host : Host σ γ) (artifact : Artifact) (state : σ) (count : Nat) :
    Option (Nat × Kept γ) :=
  (List.range count).findSome? fun number =>
    (kept? artifact (answerTo host artifact state number)).map (number, ·)

/-- How often the host was asked by so many uses that needed the component. -/
def asked (host : Host σ γ) (artifact : Artifact) (state : σ) (count : Nat) : Nat :=
  match firstKept? host artifact state count with
  | some (number, _) => number + 1
  | none => count

/-- The site of a composition, which depends on its uses by one thing: how many of them needed the
component. -/
def siteOf (host : Host σ γ) (artifact : Artifact) (state : σ) (count : Nat) :
    Site (σ × Requests) γ :=
  let asked := asked host artifact state count
  let left := (hostAfter host artifact state asked,
    List.replicate asked (artifact.code, hostParameters))
  match firstKept? host artifact state count with
  | some (_, kept) => ⟨⟨artifact, kept.build⟩, left, kept.log⟩
  | none => ⟨ofArtifact artifact, left, []⟩

/-- What the next use that needs the component gets of it. -/
def outcomeOf (host : Host σ γ) (artifact : Artifact) (state : σ) (count : Nat) :
    Except Failure (Option γ) :=
  match firstKept? host artifact state count with
  | some (_, kept) => kept.outcome.map some
  | none => gained artifact (answerTo host artifact state count)

theorem gained_of_kept? {artifact : Artifact} {answer : Except Failure (Option γ)} {kept : Kept γ}
    (h : kept? artifact answer = some kept) : gained artifact answer = kept.outcome.map some := by
  match answer with
  | .ok (some component) =>
    obtain rfl := Option.some.inj h
    rfl
  | .error failure =>
    simp only [kept?] at h
    split at h
    · contradiction
    · next message htold =>
      obtain rfl := Option.some.inj h
      simp only [gained, htold]
      rfl

/-- Nothing is kept of a host that built none, or of a failure that does not tell its message. -/
theorem kept?_isSome_iff {artifact : Artifact} {answer : Except Failure (Option γ)} :
    (kept? artifact answer).isSome = true ↔
      answer ≠ .ok none ∧
        ∀ failure other, answer = .error failure → failure.told ≠ .error other := by
  match answer with
  | .ok none => simp [kept?]
  | .ok (some component) => simp [kept?]
  | .error failure =>
    cases htold : failure.told with
    | error other =>
      simp only [kept?, htold, Option.isSome_none, Bool.false_eq_true, false_iff]
      exact fun h => h.2 failure other rfl htold
    | ok message =>
      simp only [kept?, htold, Option.isSome_some, true_iff]
      refine ⟨by simp, fun _ other hf => ?_⟩
      rw [← Except.error.inj hf, htold]
      simp

section Steps

variable (host : Host σ γ) (artifact : Artifact) (state : σ)

theorem firstKept?_succ (count : Nat) :
    firstKept? host artifact state (count + 1) = (firstKept? host artifact state count).or
      ((kept? artifact (answerTo host artifact state count)).map (count, ·)) := by
  rw [firstKept?, List.range_succ, List.findSome?_append, List.findSome?_singleton]
  rfl

/-- Once something is kept, it stays. -/
theorem firstKept?_of_some {count : Nat} {found : Nat × Kept γ}
    (h : firstKept? host artifact state count = some found) (more : Nat) :
    firstKept? host artifact state (count + more) = some found := by
  induction more with
  | zero => exact h
  | succ more ih => rw [← Nat.add_assoc, firstKept?_succ, ih, Option.some_or]

theorem recorded_eq (count : Nat) :
    host.recorded artifact.code hostParameters (hostAfter host artifact state count,
        List.replicate count (artifact.code, hostParameters)) =
      (answerTo host artifact state count, hostAfter host artifact state (count + 1),
        List.replicate (count + 1) (artifact.code, hostParameters)) := by
  rw [List.replicate_succ']
  rfl

/-- Asking for the component is one more need. -/
theorem component_siteOf (count : Nat) :
    let site := siteOf host artifact state count
    let step := site.composition.component host.recorded site.host
    step.result = outcomeOf host artifact state count ∧
      site.take step = siteOf host artifact state (count + 1) := by
  cases hfound : firstKept? host artifact state count with
  | some found =>
    obtain ⟨number, outcome, log⟩ := found
    have hnext := firstKept?_of_some host artifact state hfound 1
    simp only [siteOf, outcomeOf, asked, hfound, hnext, Kept.build]
    cases outcome <;> exact ⟨rfl, congrArg (Site.mk _ _) (List.append_nil _)⟩
  | none =>
    have hnext := firstKept?_succ host artifact state count
    have hrecorded := recorded_eq host artifact state count
    rw [hfound, Option.none_or] at hnext
    simp only [siteOf, outcomeOf, asked, hfound, hnext, ofArtifact, Composition.component, hrecorded]
    -- What the host answers is kept or not.
    match answerTo host artifact state count with
    | .ok none => exact ⟨rfl, rfl⟩
    | .ok (some component) => exact ⟨rfl, rfl⟩
    | .error failure =>
      simp only [gained, kept?]
      cases failure.told <;> exact ⟨rfl, rfl⟩

theorem isBuilt_siteOf (count : Nat) : (siteOf host artifact state count).composition.isBuilt =
    (firstKept? host artifact state count).isSome := by
  unfold siteOf
  cases firstKept? host artifact state count with
  | none => rfl
  | some found =>
    obtain ⟨number, outcome, log⟩ := found
    cases outcome <;> rfl

theorem code_siteOf (count : Nat) :
    (siteOf host artifact state count).composition.artifact.code = artifact.code := by
  unfold siteOf
  cases firstKept? host artifact state count <;> rfl

theorem requests_siteOf (count : Nat) : (siteOf host artifact state count).host.2 =
    List.replicate (asked host artifact state count) (artifact.code, hostParameters) := by
  unfold siteOf
  cases firstKept? host artifact state count <;> rfl

theorem log_siteOf (count : Nat) : (siteOf host artifact state count).log =
    ((firstKept? host artifact state count).map (·.2.log)).getD [] := by
  unfold siteOf
  cases firstKept? host artifact state count <;> rfl

/-- One use gives what is due, and needs of the component add up. -/
theorem on_siteOf (use : Use γ) (count : Nat) :
    use.on host.recorded (siteOf host artifact state count) =
      (use.due artifact (outcomeOf host artifact state count)
          (firstKept? host artifact state count).isSome,
        siteOf host artifact state (count + use.needs.toNat)) := by
  obtain ⟨hresult, hsite⟩ := component_siteOf host artifact state count
  cases use with
  | build => exact Prod.ext (congrArg Gain.component hresult) hsite
  | call apply arguments =>
    by_cases hcount : arguments.length = 6
    · have hneeds : (Use.call apply arguments).needs = true := by simpa [Use.needs] using hcount
      have hnot : ¬ arguments.length ≠ hostParameters.length := not_not_intro hcount
      rw [hneeds]
      simp only [Use.on, Use.due, run, if_neg hnot, if_pos hcount, hresult]
      exact Prod.ext rfl hsite
    · have hneeds : (Use.call apply arguments).needs = false := by simpa [Use.needs] using hcount
      have hnot : arguments.length ≠ hostParameters.length := hcount
      rw [hneeds]
      simp only [Use.on, Use.due, run, if_pos hnot, if_neg hcount]
      exact Prod.ext rfl (congrArg (Site.mk _ _) (List.append_nil _))
  | isBuilt => exact Prod.ext (congrArg Gain.built (isBuilt_siteOf host artifact state count)) rfl
  | code => exact Prod.ext (congrArg Gain.code (code_siteOf host artifact state count)) rfl

theorem after_siteOf (uses : List (Use γ)) (count : Nat) :
    (siteOf host artifact state count).after host.recorded uses =
      siteOf host artifact state (count + uses.countP Use.needs) := by
  induction uses generalizing count with
  | nil => rfl
  | cons use uses ih =>
    have hstep := congrArg Prod.snd (on_siteOf host artifact state use count)
    have hrest := ih (count + use.needs.toNat)
    have hcount : (use :: uses).countP Use.needs = use.needs.toNat + uses.countP Use.needs := by
      rw [List.countP_cons, Nat.add_comm]
      cases use.needs <;> rfl
    rw [Site.after] at hrest ⊢
    rw [List.foldl_cons, hstep, hrest, hcount, Nat.add_assoc]

theorem after_opening (uses : List (Use γ)) :
    (opening artifact state).after host.recorded uses =
      siteOf host artifact state (uses.countP Use.needs) := by
  have hafter := after_siteOf host artifact state uses 0
  rwa [Nat.zero_add] at hafter

/-- What uses of a new composition come to, one after another. -/
structure AskedUntilKept (uses : List (Use γ)) : Prop where
  /-- The host was asked by the uses that needed the component, up to the one at which something
  was kept. -/
  requests : ((opening artifact state).after host.recorded uses).host.2 =
    List.replicate (asked host artifact state (uses.countP Use.needs))
      (artifact.code, hostParameters)
  isBuilt : ((opening artifact state).after host.recorded uses).composition.isBuilt =
    (firstKept? host artifact state (uses.countP Use.needs)).isSome
  log : ((opening artifact state).after host.recorded uses).log =
    ((firstKept? host artifact state (uses.countP Use.needs)).map (·.2.log)).getD []
  /-- Whatever comes next gives what is due. -/
  gives : ∀ use : Use γ,
    (use.on host.recorded ((opening artifact state).after host.recorded uses)).1 =
      use.due artifact (outcomeOf host artifact state (uses.countP Use.needs))
        (firstKept? host artifact state (uses.countP Use.needs)).isSome
  /-- A use that does not need the component changes nothing. -/
  spares : ∀ use : Use γ, use.needs = false →
    (use.on host.recorded ((opening artifact state).after host.recorded uses)).2 =
      (opening artifact state).after host.recorded uses

theorem askedUntilKept (uses : List (Use γ)) : AskedUntilKept host artifact state uses := by
  have hafter := after_opening host artifact state uses
  have hon := fun use => on_siteOf host artifact state use (uses.countP Use.needs)
  refine ⟨?_, ?_, ?_, fun use => ?_, fun use hspare => ?_⟩
  · rw [hafter, requests_siteOf]
  · rw [hafter, isBuilt_siteOf]
  · rw [hafter, log_siteOf]
  · rw [hafter, hon]
  · rw [hafter, hon, hspare]
    rfl

/-- What uses come to if something is kept of the first answer. -/
structure BuiltOnce (kept : Kept γ) (uses : List (Use γ)) : Prop where
  /-- The host was asked by the first use that needed the component, and by no other. -/
  requests : ((opening artifact state).after host.recorded uses).host.2 =
    if uses.any Use.needs then [(artifact.code, hostParameters)] else []
  isBuilt : ((opening artifact state).after host.recorded uses).composition.isBuilt =
    uses.any Use.needs
  /-- A failure to build is reported once. -/
  log : ((opening artifact state).after host.recorded uses).log =
    if uses.any Use.needs then kept.log else []
  /-- Whatever comes next gives what is due. -/
  gives : ∀ use : Use γ,
    (use.on host.recorded ((opening artifact state).after host.recorded uses)).1 =
      use.due artifact (kept.outcome.map some) (uses.any Use.needs)
  /-- A use that does not need the component changes nothing. -/
  spares : ∀ use : Use γ, use.needs = false →
    (use.on host.recorded ((opening artifact state).after host.recorded uses)).2 =
      (opening artifact state).after host.recorded uses

variable {host artifact state}

theorem firstKept?_one :
    firstKept? host artifact state 1 =
      (kept? artifact (answerTo host artifact state 0)).map (0, ·) := by
  rw [firstKept?_succ]
  rfl

theorem builtOnce {kept : Kept γ} (h : kept? artifact (answerTo host artifact state 0) = some kept)
    (uses : List (Use γ)) : BuiltOnce host artifact state kept uses := by
  obtain ⟨hrequests, hisBuilt, hlog, hgives, hspares⟩ := askedUntilKept host artifact state uses
  cases hneeds : uses.any Use.needs with
  | false =>
    have hcount : uses.countP Use.needs = 0 := by simpa using hneeds
    rw [hcount] at hrequests hisBuilt hlog hgives
    have houtcome : outcomeOf host artifact state 0 = kept.outcome.map some := gained_of_kept? h
    rw [houtcome] at hgives
    exact ⟨by rw [hrequests, hneeds]; rfl, by rw [hisBuilt, hneeds]; rfl,
      by rw [hlog, hneeds]; rfl, by rw [hneeds]; exact hgives, hspares⟩
  | true =>
    have hpos : 0 < uses.countP Use.needs := by simpa using hneeds
    obtain ⟨more, hmore⟩ : ∃ more, uses.countP Use.needs = 1 + more :=
      ⟨uses.countP Use.needs - 1, by omega⟩
    have hone : firstKept? host artifact state 1 = some (0, kept) := by rw [firstKept?_one, h]; rfl
    have hfound : firstKept? host artifact state (uses.countP Use.needs) = some (0, kept) := by
      rw [hmore, firstKept?_of_some host artifact state hone]
    simp only [asked, outcomeOf, hfound] at hrequests hisBuilt hlog hgives
    exact ⟨by rw [hrequests, hneeds]; rfl, by rw [hisBuilt, hneeds]; rfl,
      by rw [hlog, hneeds]; rfl, by rw [hneeds]; exact hgives, hspares⟩

/-- Two needs ask twice if nothing is kept of the first answer. -/
theorem asked_two (h : kept? artifact (answerTo host artifact state 0) = none) :
    asked host artifact state 2 = 2 := by
  have hone : firstKept? host artifact state 1 = none := by rw [firstKept?_one, h]; rfl
  rw [asked, firstKept?_succ, hone, Option.none_or]
  cases kept? artifact (answerTo host artifact state 1) <;> rfl

end Steps

/-- Uses in any order and number ask a host for the code of the artifact, with the six parameters
in order, until something is kept of its answer; what is kept is what every use that needs the
component gets from then on, and no other use changes anything. The host is asked once at most,
whatever the uses are, exactly if its first answer is a component or a failure that tells its
message. -/
theorem host_is_asked_until_kept (host : Host σ γ) (artifact : Artifact) (state : σ) :
    (∀ uses, AskedUntilKept host artifact state uses) ∧
    (∀ kept, kept? artifact (answerTo host artifact state 0) = some kept →
      ∀ uses, BuiltOnce host artifact state kept uses) ∧
    ((∀ uses : List (Use γ),
        ((opening artifact state).after host.recorded uses).host.2.length ≤ 1) ↔
      answerTo host artifact state 0 ≠ .ok none ∧
        ∀ failure other, answerTo host artifact state 0 = .error failure →
          failure.told ≠ .error other) := by
  refine ⟨askedUntilKept host artifact state, fun kept h => builtOnce h, ?_⟩
  rw [← kept?_isSome_iff]
  cases hkept : kept? artifact (answerTo host artifact state 0) with
  | none =>
    have htwo : ((opening artifact state).after host.recorded [.build, .build]).host.2.length = 2 := by
      rw [(askedUntilKept host artifact state _).requests, List.length_replicate]
      exact asked_two hkept
    refine ⟨fun h => ?_, fun h => by contradiction⟩
    have honce := h [.build, .build]
    omega
  | some kept =>
    refine ⟨fun _ => rfl, fun _ uses => ?_⟩
    rw [(builtOnce hkept uses).requests]
    split <;> simp

namespace Sample

/-- A failure that fails itself when it is asked for its message. -/
def muteFailure : Failure :=
  .foreign ⟨.other, "SyntaxError", by decide, .error ⟨"RuntimeError", by decide, "no text"⟩⟩

/-- A host that fails without a message at the first request, fails with one at the second, and
would build a component at every other. -/
def moodyHost : Host Nat String := fun _ _ count =>
  (match count with
    | 0 => .error muteFailure
    | 1 => .error (.foreign (.telling .other "SyntaxError" "Unexpected token"))
    | _ => .ok (some "component"), count + 1)

def artifact : Artifact := ⟨"job-1", "return MyVideo;", false, 1, Sample.now⟩

/-- A call with too few arguments, three uses that need the component, and a question. -/
def uses : List (Use String) :=
  [.call (fun _ _ => .ok .null) [.null], .build, .isBuilt, .build,
    .call (fun _ _ => .error .notRunnable) (List.replicate 6 .null)]

end Sample

/-- The host is asked again after its first failure, and not after the second one. -/
theorem moodyHost_is_asked_twice :
    kept? Sample.artifact (answerTo Sample.moodyHost Sample.artifact 0 0) = none ∧
    kept? Sample.artifact (answerTo Sample.moodyHost Sample.artifact 1 0) =
      some ⟨.error (.unbuildable "job-1" "Unexpected token"),
        buildLog Sample.artifact "Unexpected token"⟩ ∧
    (let site := (opening Sample.artifact 0).after Sample.moodyHost.recorded Sample.uses
    site.host.2 = List.replicate 2 ("return MyVideo;", hostParameters) ∧
      site.composition.isBuilt = true ∧
      (Use.build.on Sample.moodyHost.recorded site).1 =
        .component (.error (.unbuildable "job-1" "Unexpected token"))) ∧
    (let site := (opening Sample.artifact 1).after Sample.moodyHost.recorded Sample.uses
    site.host.2 = [("return MyVideo;", hostParameters)] ∧ site.composition.isBuilt = true) := by
  obtain ⟨hall, _, _⟩ := host_is_asked_until_kept Sample.moodyHost Sample.artifact 0
  obtain ⟨_, honce, _⟩ := host_is_asked_until_kept Sample.moodyHost Sample.artifact 1
  have hkept : kept? Sample.artifact (answerTo Sample.moodyHost Sample.artifact 1 0) =
      some ⟨.error (.unbuildable "job-1" "Unexpected token"),
        buildLog Sample.artifact "Unexpected token"⟩ := rfl
  refine ⟨rfl, hkept, ⟨(hall Sample.uses).requests, (hall Sample.uses).isBuilt,
    (hall Sample.uses).gives .build⟩, (honce _ hkept Sample.uses).requests,
    (honce _ hkept Sample.uses).isBuilt⟩

end Composition

end Storyboard
