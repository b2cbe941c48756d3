import Storyboard.Job.Attempt
import Storyboard.Job.Request
import Storyboard.Job.Store
import Storyboard.Prompt.Section
import Storyboard.Prompt.System
import Storyboard.Prompt.User
import Storyboard.Template

/-!
# Generating the code of a job

A job looks up its script, asks the model until code passes or the attempts end,
and appends one version to the store: the model's code if it passed, the
template's otherwise. A job that fails leaves the store as it was.
-/

namespace Storyboard

open Decimal (NumberFault)

/-- All that attempts need. -/
structure Plan where
  request : Request
  script : Script
  /-- The prompts of the first attempt. -/
  prompts : Model.Prompts
  frames : Int

namespace Plan

/-- The user prompt of a brief, with the revision that a request asks for. -/
def userPrompt (brief : Prompt.Brief) (revision : Option Revision) : Except NumberFault String :=
  (Prompt.user brief).map fun prompt =>
    match revision with
    | some revision => Prompt.withRevision prompt revision
    | none => prompt

/-- Lays out a request for a script on a canvas. -/
def layOut (request : Request) (script : Script) (canvas : Canvas) : Except NumberFault Plan := do
  let frames ← framesOf request.targetDuration frameRate
  let brief : Prompt.Brief :=
    ⟨script, request.imageUrls, request.narration, frames, frameRate, canvas⟩
  let user ← userPrompt brief request.revision
  return ⟨request, script, ⟨Prompt.system canvas frameRate, user⟩, frames⟩

/-- The report on a job that begins. -/
def startLog (plan : Plan) : LogEntry :=
  let scriptId := if plan.script.id.isEmpty then plan.request.scriptId else plan.script.id
  ⟨.info, .generation, s!"Generating code for job {plan.request.jobId} (script {scriptId}, " ++
    s!"{plan.script.scenes.length} scenes, {Decimal.wholeText plan.frames} frames, " ++
    s!"{plan.request.aspectRatio})"⟩

/-- Plans a request for a script. -/
def make (request : Request) (script : Script) : Except NumberFault Plan × Log :=
  let (canvas, log) := Canvas.ofRatio request.aspectRatio
  match layOut request script canvas with
  | .error fault => (.error fault, log)
  | .ok plan => (.ok plan, log ++ [plan.startLog])

/-- The prompts of the attempt that a state is about to make. -/
def promptsFor (plan : Plan) (state : LoopState) : Model.Prompts :=
  if state.attempt = 0 then plan.prompts
  else { plan.prompts with user := Prompt.withFixes plan.prompts.user state.diagnostics }

/-- The report on an attempt that begins. -/
def attemptLog (plan : Plan) (settings : Settings) (state : LoopState) : LogEntry :=
  ⟨.info, .generation,
    s!"Job {plan.request.jobId}: attempt {state.attempt + 1}/{settings.maxAttempts}"⟩

/-- Diagnostics on one line. -/
def onOneLine (diagnostics : List String) : String := String.intercalate "; " diagnostics

/-- The report on an attempt whose code did not pass. -/
def verdictLog (plan : Plan) (state : LoopState) (attempt : Attempt) : Log :=
  if attempt.verdict.isSome && !attempt.passed then
    [⟨.warning, .generation, s!"Job {plan.request.jobId}: attempt {state.attempt + 1} " ++
      s!"failed validation: {onOneLine attempt.diagnostics}"⟩]
  else []

/-- Makes the attempt that a state is about to make. -/
def runAttempt (plan : Plan) (settings : Settings) (state : LoopState) (line : Model.Line) :
    Attempt × Model.Line :=
  let line := line.note [plan.attemptLog settings state]
  let (attempt, line) := Attempt.run settings state.attempt (plan.promptsFor state) line
  (attempt, line.note (plan.verdictLog state attempt))

/-- The attempts of a job, with the state that each of them led to. -/
structure Trace where
  attempts : List Attempt
  states : List LoopState

/-- The trace of one attempt and its state. -/
def Trace.one (attempt : Attempt) (state : LoopState) : Trace := ⟨[attempt], [state]⟩

/-- The trace with one more attempt before it. -/
def Trace.after (attempt : Attempt) (state : LoopState) (trace : Trace) : Trace :=
  ⟨attempt :: trace.attempts, state :: trace.states⟩

/-- Makes the attempt that a state is about to make and, while the job goes on, up
to `more` further ones. -/
def runFrom (plan : Plan) (settings : Settings) (more : Nat) (state : LoopState)
    (line : Model.Line) : Trace × Model.Line :=
  let (attempt, line) := plan.runAttempt settings state line
  let next := state.afterAttempt attempt settings.maxAttempts
  match more, next.phase with
  | more + 1, .attempting =>
    let (trace, line) := plan.runFrom settings more next line
    (trace.after attempt next, line)
  | _, _ => (.one attempt next, line)

/-- Makes all attempts of a job. -/
def run (plan : Plan) (settings : Settings) (line : Model.Line) : Trace × Model.Line :=
  plan.runFrom settings (settings.maxAttempts.toNat - 1) .start line

end Plan

open Plan (Trace)

/-- The state after the last attempt. -/
def Plan.Trace.final (trace : Trace) : LoopState := trace.states.getLast?.getD .start

/-- The phases that a job went through. Forbidden code leads to giving up. -/
def Plan.Trace.phases (trace : Trace) : List Phase :=
  Phase.attempting :: trace.states.map LoopState.phase ++
    if trace.final.phase = .securityAborted then [.exhausted] else []

/-- The code that a job brought forth. -/
def Plan.Trace.code? (trace : Trace) : Option String :=
  if trace.final.phase = .succeeded then trace.attempts.getLast?.bind Attempt.code else none

/-- The failure that got out of the last attempt. -/
def Plan.Trace.escape? (trace : Trace) : Option Failure :=
  trace.attempts.getLast?.bind Attempt.escape

/-- What a job brought forth and how. -/
structure Outcome where
  artifact : Artifact
  attempts : List Attempt
  phases : List Phase

/-- The report on attempts that ended. -/
def Plan.finishLog (plan : Plan) (trace : Trace) : Log :=
  let job := s!"Job {plan.request.jobId}: "
  let count := trace.attempts.length
  match trace.escape?, trace.code? with
  | some _, _ => []
  | none, some _ => [⟨.info, .generation, job ++ s!"code validated on attempt {count}"⟩]
  | none, none =>
    (if trace.final.phase = .securityAborted then
      [⟨.error, .generation, job ++ "security violation, skipping remaining attempts: " ++
        Plan.onOneLine trace.final.diagnostics⟩]
    else []) ++
    [⟨.warning, .generation,
      job ++ s!"no valid code after {count} attempt(s), using template fallback"⟩]

/-- The code to keep, and whether it is the template's. There is none when a failure got
out of an attempt. -/
def Plan.chooseCode (plan : Plan) (trace : Trace) : Except Failure (String × Bool) :=
  match trace.escape?, trace.code? with
  | some failure, _ => .error failure
  | none, some code => .ok (code, false)
  | none, none =>
    let request := plan.request
    ((Template.code plan.script request.imageUrls request.narration frameRate).map
      (·, true)).mapError .number

/-- Where a job reads its script and writes its code. -/
structure Desk where
  connection : Connection
  /-- Code is appended to the store; otherwise it is only checked and returned. -/
  keeps : Bool
  /-- What the clock reads when the code is there. -/
  now : Moment

/-- Looks up the script of a request. -/
def Desk.script (desk : Desk) (request : Request) : Except Failure Script := do
  let store ← desk.connection.access
  match ← store.scriptOf? (.text request.scriptId) with
  | some script => return script
  | none => .error (.scriptMissing request.scriptId)

/-- Keeps the code of a job. -/
def Desk.keep (desk : Desk) (jobId code : String) (usedFallback : Bool) :
    Except Failure (Artifact × Desk × Log) := do
  if desk.keeps then
    let store ← desk.connection.access
    let (artifact, store) ← store.update desk.now (.text jobId) (.text code) (.bool usedFallback)
    return (artifact, { desk with connection := desk.connection.holding store },
      Store.appendedLog artifact (.bool usedFallback))
  else
    let (artifact, _) ← Store.empty.update desk.now (.text jobId) (.text code) (.bool usedFallback)
    return (artifact, desk, [])

/-- Runs the attempts of a plan and keeps the code. -/
def Plan.finish (plan : Plan) (settings : Settings) (desk : Desk) (line : Model.Line) :
    Except Failure Outcome × Desk × Model.Line :=
  let (trace, line) := plan.run settings line
  let line := line.note (plan.finishLog trace)
  match plan.chooseCode trace with
  | .error failure => (.error failure, desk, line)
  | .ok (code, usedFallback) =>
    match desk.keep plan.request.jobId code usedFallback with
    | .error failure => (.error failure, desk, line)
    | .ok (artifact, desk, log) =>
      (.ok ⟨artifact, trace.attempts, trace.phases⟩, desk, line.note log)

/-- Generates the code of a job. -/
def generate (settings : Settings) (request : Request) (desk : Desk) (line : Model.Line) :
    Except Failure Outcome × Desk × Model.Line :=
  match settings.requireKey.bind fun _ => desk.script request with
  | .error failure => (.error failure, desk, line)
  | .ok script =>
    let (plan, log) := Plan.make request script
    match plan with
    | .error fault => (.error (.number fault), desk, line.note log)
    | .ok plan => plan.finish settings desk (line.note log)

end Storyboard
