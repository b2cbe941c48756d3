import Storyboard.Canvas
import Storyboard.Narration
import Storyboard.Script.Body

/-!
# Requests

A request asks for the code of one job: which script, which images and narration,
what canvas and length, and, for a revision, the code to change and the change.
-/

namespace Storyboard

open Checking

/-- Code made earlier and what to change in it. -/
structure Revision where
  previousCode : String
  feedback : String
deriving DecidableEq, Repr

/-- A request for the code of a job. -/
structure Request where
  jobId : String
  scriptId : String
  imageUrls : List String
  narration : Option Narration
  aspectRatio : String
  /-- In seconds. -/
  targetDuration : Float
  revision : Option Revision

/-- How a revision is called in reports. -/
def Revision.title : String := "IterationRequest"

/-- Checks a revision. -/
def Revision.check : Reader Revision :=
  readObject Revision.title fun fields =>
    Revision.mk
      <$> required (.same "previous_code") readFilledText fields
      <*> required (.same "feedback") readFilledText fields

/-- How a request is called in reports. -/
def Request.title : String := "GenerationRequest"

/-- Checks the fields of a request, given the checks of its narration and revision. -/
def Request.checkFields (narration : Checked (Option Narration))
    (revision : Checked (Option Revision)) (fields : Fields) : Checked Request :=
  Request.mk
    <$> required (.same "job_id") readFilledText fields
    <*> required (.same "script_id") readFilledText fields
    <*> optional (.same "image_urls") (readList readText) [] fields
    <*> narration
    <*> optional (.same "aspect_ratio") readText Canvas.standardRatio fields
    <*> required (.same "target_duration") readPositive fields
    <*> revision

/-- Checks a request. -/
def Request.check : Reader Request :=
  readObject Request.title fun fields =>
    Request.checkFields
      (optional (.same "audio") (readNullable Narration.check) none fields)
      (optional (.same "iteration") (readNullable Revision.check) none fields)
      fields

/-- The fields of a revision. -/
def Revision.body (revision : Revision) : Json := .object [
  ("previous_code", .text revision.previousCode),
  ("feedback", .text revision.feedback)]

/-- The fields of a request. -/
def Request.body (request : Request) : Json := .object [
  ("job_id", .text request.jobId),
  ("script_id", .text request.scriptId),
  ("image_urls", textList request.imageUrls),
  ("audio", (request.narration.map Narration.body).getD .null),
  ("aspect_ratio", .text request.aspectRatio),
  ("target_duration", .float request.targetDuration),
  ("iteration", (request.revision.map Revision.body).getD .null)]

end Storyboard
