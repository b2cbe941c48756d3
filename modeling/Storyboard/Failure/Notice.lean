import Storyboard.Failure.Basic
import Storyboard.Checking.Reader
import Storyboard.Text.Caseless
import Storyboard.Text.Search

/-!
# Notices of failures

A tool answers a failure with a notice: what failed, the category, a hint for the
caller, and whether trying again may help. The category follows from the family
of the failure, and where that says nothing from words in its message.
-/

namespace Storyboard

open Checking

/-- Kinds of failures that callers tell apart. -/
inductive Category where
  | missingCredential
  | invalidSettings
  | scriptNotFound
  | buildFailed
  | permissionDenied
  | quotaExceeded
  | invalidArgument
  | networkError
  | storeError
  | unknown
deriving DecidableEq, Repr

/-- The name of a category in notices. -/
def Category.name : Category → String
  | .missingCredential => "CONFIG_MISSING_CREDENTIAL"
  | .invalidSettings => "CONFIG_INVALID"
  | .scriptNotFound => "SCRIPT_NOT_FOUND"
  | .buildFailed => "COMPOSITION_BUILD_FAILED"
  | .permissionDenied => "API_PERMISSION_DENIED"
  | .quotaExceeded => "API_QUOTA_EXCEEDED"
  | .invalidArgument => "API_INVALID_ARGUMENT"
  | .networkError => "NETWORK_ERROR"
  | .storeError => "STORE_ERROR"
  | .unknown => "UNKNOWN"

/-- Trying again may help. -/
def Category.isRetryable (category : Category) : Bool :=
  category = .quotaExceeded || category = .networkError

/-- After so many seconds a caller may try again when a quota is used up. -/
def quotaPause : Int := 60

/-- When to try again, in seconds. -/
def Category.retryAfter? (category : Category) : Option Int :=
  if category = .quotaExceeded then some quotaPause else none

/-- One of the words occurs in the text. -/
def mentions (text : String) (words : List String) : Bool := words.any (Text.contains text)

/-- What a message says about the category, by the words in it; earlier rows win. -/
def messageRules : List (List String × Category × String) := [
  (["401", "403"], .permissionDenied,
    "API key rejected — check the provider credential and model access"),
  (["429", "quota", "resource_exhausted"], .quotaExceeded, "Rate limit hit — wait and retry"),
  (["400"], .invalidArgument, "Bad request — check input format"),
  (["invalid codegen provider"], .invalidSettings,
    "CODEGEN_PROVIDER must be 'openrouter' or 'gemini'"),
  (["timeout", "timed out"], .networkError,
    "Request timed out — try again or check connectivity"),
  (["sqlite", "database"], .storeError, "Job store unavailable — check CODEGEN_JOB_DB")]

/-- The category and hint of a message. -/
def categoryOfMessage (message : String) : Category × String :=
  let words := Text.lower message
  match messageRules.find? fun rule => mentions words rule.1 with
  | some rule => rule.2
  | none => (.unknown, message)

/-- The category and hint of a failure. -/
def Failure.category (failure : Failure) : Category × String :=
  match failure.family with
  | .credential => (.missingCredential,
    "Set OPENROUTER_API_KEY (or GEMINI_API_KEY with CODEGEN_PROVIDER=gemini)")
  | .unknownScript => (.scriptNotFound,
    "Script not found — store it with codegen_save_script first")
  | .build => (.buildFailed,
    "The rendering host could not construct the composition from the code")
  | .timeout | .connection => (.networkError,
    "Request timed out or connection failed — try again or check connectivity")
  | .other => categoryOfMessage failure.message

/-- Words in the message of a failure that may pass by itself. -/
def transientWords : List String := [
  "429", "quota", "resource_exhausted", "timeout", "502", "503", "service unavailable"]

/-- The same request may succeed when it is sent again. A failure of a connection is not
asked for its message. -/
def Failure.isTransient (failure : Failure) : Except Failure Bool :=
  if failure.family = .connection then .ok true
  else failure.told.map fun message => mentions (Text.lower message) transientWords

theorem Failure.tells_of_isTransient_error {failure other : Failure}
    (h : failure.isTransient = .error other) : other.Tells := by
  rw [isTransient] at h
  split at h
  · contradiction
  · cases htold : failure.told with
    | ok message =>
      rw [htold] at h
      contradiction
    | error untold =>
      rw [htold] at h
      obtain rfl := Except.error.inj h
      exact tells_of_told_error htold

/-- What a tool says about a failure. -/
structure Notice where
  error : String
  category : String
  hint : String
  retryable : Bool
  retryAfter : Option Int
deriving DecidableEq, Repr

/-- The notice of a failure. -/
def Failure.notice (failure : Failure) : Notice :=
  let (category, hint) := failure.category
  ⟨failure.message, category.name, hint, category.isRetryable, category.retryAfter?⟩

namespace Notice

/-- Checks a notice. -/
def check : Reader Notice :=
  readObject "ToolError" fun fields =>
    Notice.mk
      <$> required (.same "error") readText fields
      <*> required (.same "category") readText fields
      <*> required (.same "hint") readText fields
      <*> optional (.same "retryable") readFlag false fields
      <*> optional (.same "retry_after_seconds") (readNullable readWhole) none fields

/-- The fields of a notice. -/
def body (notice : Notice) : Json := .object [
  ("error", .text notice.error),
  ("category", .text notice.category),
  ("hint", .text notice.hint),
  ("retryable", .bool notice.retryable),
  ("retry_after_seconds", (notice.retryAfter.map Json.int).getD .null)]

end Notice

end Storyboard
