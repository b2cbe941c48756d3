import Storyboard.Failure.Notice
import Storyboard.Json.Argument
import Storyboard.Studio

/-!
# Tools

The four operations that callers see. Each answers with an object; a failure
becomes a notice, which is an answer as well.
-/

namespace Storyboard.Tool

open Checking (Checked Reader)

/-- An answer to a caller: a failure becomes its notice. -/
def answering (action : Action Json) : Action Json :=
  tryCatch action fun failure => return failure.notice.body

/-- The accepted value of a check. -/
def accept (title : String) (check : Checked α) : Action α :=
  Action.of ((check.orReport title .value).mapError Failure.rejected)

/-- An argument in the shape that is asked for. -/
def coerce (shape : Json.Shape) (argument : Json) : Action Json := do
  Action.of ((Json.coerce (← get).nesting shape argument).mapError Failure.ofReading)

/-- Arguments of the tool that generates code. -/
structure GenerateArguments where
  jobId : Json
  scriptId : Json
  targetDuration : Json
  aspectRatio : Json
  imageUrls : Json
  narration : Json
  previousCode : Json
  feedback : Json

/-- The arguments by name; one that is not given has its default. -/
def GenerateArguments.ofEntries (entries : Json.Entries) : GenerateArguments :=
  let given (name : String) (fallback : Json) := (entries.lookup name).getD fallback
  { jobId := given "job_id" .null
    scriptId := given "script_id" .null
    targetDuration := given "target_duration" .null
    aspectRatio := given "aspect_ratio" (.text Canvas.standardRatio)
    imageUrls := given "image_urls" .null
    narration := given "audio" .null
    previousCode := given "previous_code" .null
    feedback := given "feedback" .null }

/-- The revision that the arguments ask for: both code and feedback are needed. -/
def GenerateArguments.revision (arguments : GenerateArguments) : Action (Option Revision) := do
  if arguments.previousCode.isVacant || arguments.feedback.isVacant then return none
  else
    let fields : Json := .object
      [("previous_code", arguments.previousCode), ("feedback", arguments.feedback)]
    return some (← accept Revision.title (Revision.check .value fields))

/-- The request that the arguments make. -/
def GenerateArguments.request (arguments : GenerateArguments) : Action Request := do
  let images ← coerce .list arguments.imageUrls
  let narration ← coerce .object arguments.narration
  let revision ← arguments.revision
  let track ←
    if narration.isVacant then pure none
    else some <$> accept Narration.title (Narration.check .value narration)
  accept Request.title <| Request.checkFields (.accepted track) (.accepted revision) ⟨.value, [
    ("job_id", arguments.jobId),
    ("script_id", arguments.scriptId),
    ("image_urls", if images.isVacant then .list [] else images),
    ("aspect_ratio", arguments.aspectRatio),
    ("target_duration", arguments.targetDuration)]⟩

/-- The answer on an outcome. -/
def outcomeBody (outcome : Outcome) : Json := .object [
  ("job_id", .text outcome.artifact.jobId),
  ("version", .int outcome.artifact.version),
  ("used_fallback", .bool outcome.artifact.usedFallback),
  ("attempts", .int outcome.attempts.length),
  ("phases", textList (outcome.phases.map Phase.name)),
  ("diagnostics", .list (outcome.attempts.map fun attempt => textList attempt.diagnostics)),
  ("code", .text outcome.artifact.code)]

/-- Generates the code of a job. -/
def generate (arguments : GenerateArguments) : Action Json :=
  answering do
    let request ← arguments.request
    return outcomeBody (← Studio.generateCode request true)

/-- The name of a layer in answers. -/
def layerName : Review.Layer → String
  | .writing => "syntax"
  | .safety => "security"
  | .shape => "structure"

/-- Reviews code. -/
def validate (code : String) : Json :=
  let verdicts := Review.layers.map fun layer => (layerName layer, layer.review code)
  .object [
    ("passed", .bool (verdicts.all fun entry => entry.2.passed)),
    ("layers", .object (verdicts.map fun entry => (entry.1, textList entry.2.issues)))]

/-- Keeps a script. -/
def saveScript (script : Json) : Action Json :=
  answering do
    let script ← accept Script.title (Script.check .value (← coerce .object script))
    let id ← Studio.saveScript script
    return .object [
      ("script_id", .text id),
      ("scenes", .int script.scenes.length),
      ("total_duration", .float script.totalDuration)]

/-- A version as the history lists it. -/
def versionBody (withCode : Bool) (artifact : Artifact) : Json := .object <| [
  ("version", .int artifact.version),
  ("used_fallback", .bool artifact.usedFallback),
  ("created_at", .text artifact.createdAt.text),
  ("chars", .int artifact.code.length)] ++
  if withCode then [("code", .text artifact.code)] else []

/-- Lists the versions of a job. -/
def history (jobId : Json) (withCode : Bool) : Action Json :=
  answering do
    let versions ← Studio.history jobId
    return .object [
      ("job_id", jobId),
      ("versions", .list (versions.map (versionBody withCode))),
      ("latest_code", textOrNull (versions.getLast?.map Artifact.code))]

end Storyboard.Tool
