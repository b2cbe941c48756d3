import Storyboard.Decimal.Layout
import Storyboard.Checking.Report
import Storyboard.Address.Fault
import Storyboard.Job.Phase
import Storyboard.Json.Fault
import Storyboard.Settings.Provider
import Storyboard.Text.Decoding
import Storyboard.Text.Encoding

/-!
# Failures

Every way in which an operation can fail, with its wording. Failures that come
from outside, from a network or from a host, are `foreign`: they carry what is
known of them. Whoever wants the message of a failure has to ask for it, and a
failure from outside may fail to tell it.
-/

namespace Storyboard

open Decimal (NumberFault wholeText)

/-- How a failure from outside is to be treated. -/
inductive Family where
  /-- A deployment lacks a key. -/
  | credential
  | unknownScript
  | build
  /-- Waiting took too long. -/
  | timeout
  /-- A connection failed or took too long. -/
  | connection
  | other
deriving DecidableEq, Repr

/-- What a failure that tells its message says: its kind and the message. A kind is
declared under a name, so the name is not empty. -/
structure Complaint where
  label : String
  named : label ≠ ""
  message : String

/-- A failure from outside. -/
structure Foreign where
  family : Family
  /-- The name of its kind, which is not empty as that of a `Complaint`. -/
  label : String
  named : label ≠ ""
  /-- The message, or with what the attempt to make one fails. -/
  message : Except Complaint String

/-- A failure from outside that tells its message. -/
def Foreign.telling (family : Family) (label message : String)
    (named : label ≠ "" := by decide) : Foreign := ⟨family, label, named, .ok message⟩

/-- A reply that is not built as replies are. -/
inductive ShapeFault where
  /-- A value of this kind has no such member. -/
  | noMember (kind member : String)
  /-- A value of this kind holds no items. -/
  | noItems (kind : String)
  /-- An object has no first item. -/
  | noFirst
  /-- A value of this kind is no sequence. -/
  | noSequence (kind : String)
deriving DecidableEq, Repr

/-- The wording of a fault. -/
def ShapeFault.message : ShapeFault → String
  | .noMember kind member => s!"'{kind}' object has no attribute '{member}'"
  | .noItems kind => s!"'{kind}' object is not subscriptable"
  | .noFirst => "0"
  | .noSequence kind => s!"'{kind}' object is not iterable"

/-- Why an operation failed. -/
inductive Failure where
  | foreign (failure : Foreign)
  | rejected (report : Checking.Report)
  | number (fault : NumberFault)
  | unreadable (problem : Json.Problem)
  /-- Lists and objects of a Json text lie in too many others. -/
  | tooDeep (shape : Json.Shape)
  | shape (fault : ShapeFault)
  /-- A text that is sent or looked up has no form in its encoding. -/
  | encoding (fault : Text.EncodeFault)
  | decoding (fault : Text.DecodeFault)
  /-- A text of a script has no form in which it could be kept. -/
  | unstorable (fault : Text.EncodeFault)
  | address (fault : Address.Fault)
  /-- An answer came from an address without scheme or host. -/
  | addressKind (target : String)
  /-- A number of a request has no Json form. -/
  | noJsonNumber
  /-- A provider answered with an error. -/
  | status (code : Nat) (body : String)
  /-- A provider answered without content. -/
  | noContent (provider : Provider)
  | keyMissing (provider : Provider)
  | scriptMissing (scriptId : String)
  /-- The host could not build the code of a job. -/
  | unbuildable (jobId reason : String)
  /-- A composition was run before the host built one. -/
  | notRunnable
  | argumentCount (expected : List String) (given : Nat)
  | storeClosed
  /-- No file can be at the path of the store. -/
  | storeUnopened
  /-- Nothing is kept under a value of this kind. -/
  | keyKind (kind : String)
  /-- Nothing is kept under a whole number of more than sixty-four bits. -/
  | keyTooLarge
  /-- A version of a job has a number that another version of it has. -/
  | keyTaken
  /-- A kept text stands for no moment. -/
  | notMoment (text : String)
  /-- A name or value of a variable holds a NUL character. -/
  | nulCharacter
  /-- A job in this phase goes no further. -/
  | finished (phase : Phase)
  | attemptNeeded
  /-- A record of this title has no such field. -/
  | unknownField (title name : String)
  /-- A record of this title derives the value of this name. -/
  | derivedField (title name : String)
  /-- All fields are assigned at once, and the value is of this kind and no object. -/
  | fieldsKind (kind : String)
  /-- The kind of a record is assigned, which no value of this kind can be. -/
  | classKind (kind : String)

namespace Failure

/-- The failure of reading a Json text. -/
def ofReading : Json.ReadFault → Failure
  | .problem found => unreadable found
  | .number fault => number fault
  | .tooDeep found => tooDeep found

/-- The name of a provider in messages. -/
def providerLabel : Provider → String
  | .openRouter => "OpenRouter"
  | .gemini => "Gemini"

/-- The wording of a failure. One from outside that does not tell its message has none. -/
def message : Failure → String
  | foreign failure => failure.message.toOption.getD ""
  | rejected report => report.message
  | number fault => fault.message
  | unreadable problem => problem.message
  | tooDeep found => found.depthMessage
  | shape fault => fault.message
  | encoding fault => fault.message
  | decoding fault => fault.message
  | unstorable fault => s!"Error serializing to JSON: UnicodeEncodeError: {fault.message}"
  | address fault => fault.message
  | addressKind target => s!"unknown url type: {Text.quoted target}"
  | noJsonNumber => "Out of range float values are not JSON compliant"
  | status code body => s!"OpenRouter API error ({code}): {body}"
  | noContent provider => s!"No content in {providerLabel provider} response"
  | keyMissing provider =>
    s!"{provider.keyVariable} not configured — set it in the environment or " ++
      "~/.config/video-codegen-mcp/.env"
  | scriptMissing scriptId => s!"Script {scriptId} not found"
  | unbuildable jobId reason => s!"Cannot construct composition for job {jobId}: {reason}"
  | notRunnable => "'NoneType' object is not callable"
  | argumentCount expected given =>
    let names := String.intercalate ", " expected
    s!"Composition expects {expected.length} arguments ({names}), got {given}"
  | storeClosed => "Cannot operate on a closed database."
  | storeUnopened => "unable to open database file"
  | keyKind kind => s!"Error binding parameter 1: type '{kind}' is not supported"
  | keyTooLarge => "Python int too large to convert to SQLite INTEGER"
  | keyTaken => "UNIQUE constraint failed: job_code.job_id, job_code.version"
  | notMoment text => s!"Invalid isoformat string: {Text.quoted text}"
  | nulCharacter => "embedded null byte"
  | finished phase => s!"No transition out of terminal phase {phase.name}"
  | attemptNeeded => "An attempt is required to advance from ATTEMPTING"
  | unknownField title name => s!"\"{title}\" object has no field \"{name}\""
  | derivedField title name => s!"property '{name}' of '{title}' object has no setter"
  | fieldsKind kind => s!"__dict__ must be set to a dictionary, not a '{kind}'"
  | classKind kind => s!"__class__ must be set to a class, not '{kind}' object"

/-- How a failure is to be treated. -/
def family : Failure → Family
  | foreign failure => failure.family
  | keyMissing _ => .credential
  | scriptMissing _ => .unknownScript
  | unbuildable _ _ => .build
  | _ => .other

/-- Asks a failure for its message. One that does not tell it fails with another failure
in its place. -/
def told : Failure → Except Failure String
  | foreign failure => failure.message.mapError fun complaint =>
      foreign ⟨.other, complaint.label, complaint.named, .ok complaint.message⟩
  | failure => .ok failure.message

theorem family_of_told_error {failure other : Failure} (h : failure.told = .error other) :
    other.family = .other := by
  cases failure with
  | foreign outside =>
    rw [told] at h
    cases hm : outside.message with
    | ok message =>
      rw [hm] at h
      cases h
    | error complaint =>
      rw [hm] at h
      cases h
      rfl
  | _ => cases h

/-- The failure tells its message when it is asked. -/
def Tells (failure : Failure) : Prop := ∃ message, failure.told = .ok message

theorem tells_of_told_error {failure other : Failure} (h : failure.told = .error other) :
    other.Tells := by
  cases failure with
  | foreign outside =>
    rw [told] at h
    cases hm : outside.message with
    | ok message =>
      rw [hm] at h
      cases h
    | error complaint =>
      rw [hm] at h
      cases h
      exact ⟨_, rfl⟩
  | _ => cases h

/-- The message of a failure, or the name of its kind when the message is empty. -/
def describe : Failure → Except Failure String
  | foreign failure => (foreign failure).told.map fun message =>
      if message.isEmpty then failure.label else message
  | failure => .ok failure.message

theorem told_of_describe_error {failure other : Failure} (h : failure.describe = .error other) :
    failure.told = .error other := by
  cases failure with
  | foreign outside =>
    rw [describe] at h
    cases htold : (foreign outside).told with
    | ok message =>
      rw [htold] at h
      cases h
    | error found =>
      rw [htold] at h
      cases h
      rfl
  | _ => cases h

end Failure

end Storyboard
