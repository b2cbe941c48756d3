import Storyboard.Checking.Document
import Storyboard.Failure.Basic
import Storyboard.Job.Artifact
import Storyboard.Job.Key
import Storyboard.Job.Location
import Storyboard.Json.Compact
import Storyboard.Keyed
import Storyboard.Log
import Storyboard.Script.Body
import Storyboard.Script.Check
import Storyboard.Text.Hex

/-!
# The job store

The store has two tables. One holds the text of each script under its id; a script that
is kept under an id takes the place of an earlier one, and is read and checked again when
it is loaded. The other holds a row for each version of the code of a job. Rows are only
added, and no two have the same job and number: versions of one job are counted from one,
and its history is made of its rows by their numbers, each of them checked again.
-/

namespace Storyboard

/-- A row of the table of code. -/
structure CodeRow where
  jobId : String
  version : Nat
  code : String
  /-- One for code of the template, zero for a model's. -/
  usedFallback : Nat
  createdAt : String
deriving DecidableEq, Repr

namespace CodeRow

/-- What no two rows share. -/
def key (row : CodeRow) : String × Nat := (row.jobId, row.version)

/-- The row of an artifact. -/
def ofArtifact (artifact : Artifact) : CodeRow where
  jobId := artifact.jobId
  version := artifact.version
  code := artifact.code
  usedFallback := artifact.usedFallback.toNat
  createdAt := artifact.createdAt.text

/-- When the code of a row was made. -/
def moment (row : CodeRow) : Except Failure Moment :=
  match Moment.ofText? row.createdAt with
  | some moment => .ok moment
  | none => .error (.notMoment row.createdAt)

/-- The fields of a row, but for when its code was made. -/
def fields (row : CodeRow) : Checking.Fields := ⟨.value, [
  ("job_id", .text row.jobId), ("version", .int row.version), ("code", .text row.code),
  ("used_fallback", .bool (row.usedFallback ≠ 0))]⟩

/-- The artifact of a row. -/
def artifact (row : CodeRow) : Except Failure Artifact := do
  let createdAt ← row.moment
  let checked := Artifact.checkFields (.accepted createdAt) row.fields
  (checked.orReport Artifact.title .value).mapError .rejected

end CodeRow

/-- The text in which a script is kept. -/
def Script.record (script : Script) : String := script.stored.compactIn Decimal.recordLayout

/-- The texts of scripts by id, and the rows of all versions in the order in which they were
added. -/
structure Store where
  scripts : List (String × String)
  codes : List CodeRow
  keyed : (codes.map CodeRow.key).Nodup

namespace Store

/-- A store with nothing in it. -/
def empty : Store := ⟨[], [], .nil⟩

/-- The rows of a job, in the order in which they were added. -/
def rowsOf (store : Store) (jobId : String) : List CodeRow :=
  store.codes.filter fun row => row.jobId = jobId

/-- The versions of a job by their numbers. -/
def history (store : Store) (jobId : String) : Except Failure (List Artifact) :=
  ((store.rowsOf jobId).mergeSort fun first second => first.version ≤ second.version).mapM
    CodeRow.artifact

/-- The text in which a script is kept under an id. -/
def write (id : String) (script : Script) : Except Failure String :=
  let named := { script with id := id }
  match named.stored.texts.findSome? (Text.encodeFault? .utf8) with
  | some fault => .error (.unstorable fault)
  | none => .ok named.record

/-- Keeps the text of a script under an id, in place of an earlier one. -/
def save (store : Store) (id body : String) : Store :=
  { store with scripts := Keyed.put id body store.scripts }

/-- The script of an id. -/
def script? (store : Store) (id : String) : Except Failure (Option Script) :=
  match store.scripts.lookup id with
  | none => .ok none
  | some body =>
    (((Checking.readDocument Script.check body).orReport Script.title .text).mapError
      .rejected).map some

/-- The script that a value names. -/
def scriptOf? (store : Store) (id : Json) : Except Failure (Option Script) := do
  match ← id.key with
  | some id => store.script? id
  | none => return none

/-- The versions of the job that a value names. -/
def historyOf (store : Store) (jobId : Json) : Except Failure (List Artifact) := do
  match ← jobId.key with
  | some jobId => store.history jobId
  | none => return []

/-- The latest version of the job that a value names. -/
def latestOf (store : Store) (jobId : Json) : Except Failure (Option Artifact) := do
  return (← store.historyOf jobId).getLast?

/-- The number of the next version of a job. -/
def nextVersion (store : Store) (jobId : String) : Nat :=
  (store.rowsOf jobId).foldl (fun greatest row => max greatest row.version) 0 + 1

/-- The fields of the next version of a job. -/
def draft (store : Store) (jobId code usedFallback : Json) : Except Failure Json := do
  let version := ((← jobId.key).map store.nextVersion).getD firstVersion
  return .object [
    ("job_id", jobId), ("code", code), ("used_fallback", usedFallback), ("version", .int version)]

/-- A value as it is reported: a text as it is, any other as messages show it. -/
def reported : Json → String
  | .text text => text
  | value => value.display

/-- The report on an appended version, with the flag as it was given. -/
def appendedLog (artifact : Artifact) (usedFallback : Json) : Log :=
  [⟨.info, .store, s!"Stored code v{artifact.version} for job {artifact.jobId} " ++
    s!"({artifact.code.length} chars, fallback={reported usedFallback})"⟩]

/-- Adds a row, unless another has its job and its number. -/
def insert (store : Store) (row : CodeRow) : Except Failure Store :=
  if h : row.key ∈ store.codes.map CodeRow.key then .error .keyTaken
  else .ok {
    scripts := store.scripts
    codes := store.codes ++ [row]
    keyed := by
      rw [List.map_append, List.nodup_append]
      refine ⟨store.keyed, by simp, fun first hf second hs he => h ?_⟩
      rwa [← List.mem_singleton.mp hs, ← he] }

/-- Adds a version that is made now and whose fields pass the check. -/
def append (store : Store) (now : Moment) (fields : Json) : Except Failure (Artifact × Store) := do
  let checked := Artifact.check now .value fields
  let artifact ← (checked.orReport Artifact.title .value).mapError .rejected
  return (artifact, ← store.insert (.ofArtifact artifact))

/-- Adds the next version of a job. -/
def update (store : Store) (now : Moment) (jobId code usedFallback : Json) :
    Except Failure (Artifact × Store) := do
  store.append now (← store.draft jobId code usedFallback)

end Store

/-- A store that is in use. A closed one refuses every operation. -/
structure Connection where
  /-- Where the store is kept; it is kept in memory without a place. -/
  location : Option Location
  isOpen : Bool
  store : Store

namespace Connection

/-- The store, unless the connection is closed. -/
def access (connection : Connection) : Except Failure Store :=
  if connection.isOpen then .ok connection.store else .error .storeClosed

/-- The connection after its store changed. -/
def holding (connection : Connection) (store : Store) : Connection := { connection with store }

end Connection

/-- So many digits make a generated script id. -/
def scriptIdDigits : Nat := 12

/-- What is drawn for a script id: as many numbers as such digits can write. -/
abbrev Draw : Type := Fin 0x1000000000000

/-- The generated script id of a draw. -/
def generatedScriptId (draw : Draw) : String :=
  String.ofList (Text.hexDigits scriptIdDigits draw)

end Storyboard
