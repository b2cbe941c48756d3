import Storyboard.Decimal.Numeral
import Storyboard.Environment.File
import Storyboard.Failure.Basic
import Storyboard.Log
import Storyboard.Settings.Basic
import Storyboard.Text.Blank

/-!
# Settings from the environment

Each setting has a variable, which is read as a text or as a number. The numbers
are read first and stop at the first that is none; the values are then checked
together. Before the environment is read for the first time, variables it lacks
are filled in from the environment file.
-/

namespace Storyboard.Settings

open Decimal (readReal readWhole NumberFault)

/-- Where tracing goes. -/
def tracingVariable : String := "MLFLOW_TRACKING_URI"

/-- Tracing is on when it has somewhere to go and is not turned off. -/
def tracingEnabled (environment : Environment) : Bool :=
  Text.lower (environment.valueOr "CODEGEN_TRACING_ENABLED" "") ≠ "false" &&
    !(environment.valueOr tracingVariable "").isEmpty

/-- The settings in the environment, before they are checked. -/
def fields (environment : Environment) : Except NumberFault Json.Entries := do
  let text (name fallback : String) : Json := .text (environment.valueOr name fallback)
  let real (name fallback : String) := (readReal (environment.valueOr name fallback)).map Json.float
  let whole (name fallback : String) := (readWhole (environment.valueOr name fallback)).map Json.int
  let url := environment.valueOr "OPENROUTER_BASE_URL" standard.openRouterUrl
  let temperature ← real "CODEGEN_TEMPERATURE" "0.3"
  let maxTokens ← whole "CODEGEN_MAX_TOKENS" "12000"
  let maxAttempts ← whole "CODEGEN_MAX_ATTEMPTS" "3"
  let httpTimeout ← real "CODEGEN_HTTP_TIMEOUT" "0"
  let retryLimit ← whole "CODEGEN_RETRY_MAX_ATTEMPTS" "3"
  let retryBase ← real "CODEGEN_RETRY_BASE_DELAY" "1.0"
  let retryCap ← real "CODEGEN_RETRY_MAX_DELAY" "60.0"
  return [
    ("provider", text "CODEGEN_PROVIDER" standard.provider.name),
    ("openrouter_api_key", text Provider.openRouter.keyVariable standard.openRouterKey),
    ("openrouter_base_url", .text (Text.trimEnd (· == '/') url)),
    ("codegen_model", text "CODEGEN_MODEL" standard.openRouterModel),
    ("gemini_api_key", text Provider.gemini.keyVariable standard.geminiKey),
    ("gemini_model", text "GEMINI_MODEL" standard.geminiModel),
    ("temperature", temperature),
    ("max_tokens", maxTokens),
    ("max_attempts", maxAttempts),
    ("http_timeout", httpTimeout),
    ("http_referer", text "CODEGEN_HTTP_REFERER" standard.referer),
    ("app_title", text "CODEGEN_APP_TITLE" standard.appTitle),
    ("retry_max_attempts", retryLimit),
    ("retry_base_delay", retryBase),
    ("retry_max_delay", retryCap),
    ("job_db_path", text "CODEGEN_JOB_DB" standard.storePath),
    ("tracing_enabled", .bool (tracingEnabled environment)),
    ("mlflow_tracking_uri", text tracingVariable standard.tracingUri),
    ("mlflow_experiment_name", text "MLFLOW_EXPERIMENT_NAME" standard.experiment)]

/-- The settings in the environment. -/
def fromEnvironment (environment : Environment) : Except Failure Settings :=
  match fields environment with
  | .error fault => .error (.number fault)
  | .ok entries => ((check .value (.object entries)).orReport title .value).mapError .rejected

/-- What loading settings leads to. -/
structure Loaded where
  settings : Except Failure Settings
  environment : Environment
  log : Log

/-- The report on variables that were filled in. -/
def filledLog (written : Environment) : Log :=
  if written.isEmpty then []
  else [⟨.info, .settings, s!"Loaded {written.length} var(s) from config: " ++
    String.intercalate ", " (written.map Prod.fst)⟩]

/-- Fills in the environment from the file and reads the settings in it. -/
def load (environment : Environment) (file : Option String) : Loaded :=
  let filled := environment.fillFrom file
  if filled.stopped then ⟨.error .nulCharacter, filled.environment, []⟩
  else ⟨fromEnvironment filled.environment, filled.environment, filledLog filled.written⟩

/-- The key of the chosen provider. -/
def requireKey (settings : Settings) : Except Failure String :=
  if settings.key.isEmpty then .error (.keyMissing settings.provider) else .ok settings.key

end Storyboard.Settings
