import Storyboard.Moment.Basic

/-!
# Artifacts

The code of a job, as it is kept: versions of one job are counted from one, and
each tells whether it comes from the template and when it was made.
-/

namespace Storyboard

open Checking

/-- A version of the code of a job. -/
structure Artifact where
  jobId : String
  code : String
  /-- The code is the template's and not a model's. -/
  usedFallback : Bool
  version : Nat
  createdAt : Moment
deriving DecidableEq, Repr

/-- The version of code that is kept nowhere else. -/
def firstVersion : Nat := 1

/-- How an artifact is called in reports. -/
def Artifact.title : String := "GeneratedCodeArtifact"

/-- Checks the fields of an artifact that was made at this moment. -/
def Artifact.checkFields (createdAt : Checked Moment) (fields : Fields) : Checked Artifact :=
  Artifact.mk
    <$> required (.same "job_id") readText fields
    <*> required (.same "code") readFilledText fields
    <*> required (.same "used_fallback") readFlag fields
    <*> Checked.map Int.toNat
      (optional (.same "version") (readWholeFrom firstVersion) firstVersion fields)
    <*> createdAt

/-- Checks an artifact. One that does not tell when it was made is made now. -/
def Artifact.check (now : Moment) : Reader Artifact :=
  readObject Artifact.title fun fields =>
    checkFields (optional (.same "created_at") Moment.check now fields) fields

/-- The fields of an artifact. -/
def Artifact.body (artifact : Artifact) : Json := .object [
  ("job_id", .text artifact.jobId),
  ("code", .text artifact.code),
  ("used_fallback", .bool artifact.usedFallback),
  ("version", .int artifact.version),
  ("created_at", .text artifact.createdAt.text)]

end Storyboard
