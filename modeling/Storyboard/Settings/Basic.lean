import Storyboard.Checking.Reader
import Storyboard.Settings.Provider
import Storyboard.Text.Caseless

/-!
# Settings

What can be set about a run: the provider with its keys and models, limits, how
failed transports are repeated, where jobs are kept, and tracing. Counts are at
least one, delays are not zero or less, and the temperature lies between 0 and 2.
-/

namespace Storyboard

open Checking

/-- The settings of a run. -/
structure Settings where
  provider : Provider
  openRouterKey : String
  openRouterUrl : String
  openRouterModel : String
  geminiKey : String
  geminiModel : String
  temperature : Float
  maxTokens : Int
  /-- How often a job asks the model. -/
  maxAttempts : Int
  /-- In seconds; zero leaves it to the network. -/
  httpTimeout : Float
  referer : String
  appTitle : String
  /-- How often one request is sent. -/
  retryLimit : Int
  /-- In seconds. -/
  retryBase : Float
  /-- In seconds. -/
  retryCap : Float
  /-- Where jobs are kept; empty keeps them in memory. -/
  storePath : String
  tracing : Bool
  tracingUri : String
  experiment : String

namespace Settings

/-- The model of the chosen provider. -/
def model (settings : Settings) : String :=
  match settings.provider with
  | .openRouter => settings.openRouterModel
  | .gemini => settings.geminiModel

/-- The key of the chosen provider, empty when there is none. -/
def key (settings : Settings) : String :=
  match settings.provider with
  | .openRouter => settings.openRouterKey
  | .gemini => settings.geminiKey

/-- A value that breaks a rule of the settings. -/
def broken (rule : String) (value : Json) : Checked α := .reject (.rule rule) value

/-- A provider, by its name in any case and with blanks around it. -/
def readProvider : Reader Provider := fun origin value =>
  (readText origin value).andThen fun name =>
    match Provider.ofName? (Text.lower (Text.trim name)) with
    | some provider => .accepted provider
    | none => broken s!"Invalid codegen provider '{name}'. Allowed: gemini, openrouter" value

/-- A temperature. -/
def readTemperature : Reader Float := fun origin value =>
  (readDouble origin value).andThen fun x =>
    if 0 ≤ x && x ≤ 2 then .accepted x else broken "temperature must be between 0 and 2" value

/-- A count that is not zero or less. -/
def readCount : Reader Int := fun origin value =>
  (readWhole origin value).andThen fun n =>
    if n < 1 then broken "Configuration values must be >= 1" value else .accepted n

/-- A delay that is not zero or less. -/
def readDelay : Reader Float := fun origin value =>
  (readDouble origin value).andThen fun x =>
    if x ≤ 0 then broken "Retry delay must be > 0" value else .accepted x

/-- A timeout that is not less than zero. -/
def readTimeout : Reader Float := fun origin value =>
  (readDouble origin value).andThen fun x =>
    if x < 0 then broken "http_timeout must be >= 0" value else .accepted x

/-- The settings when nothing is set. -/
def standard : Settings where
  provider := .openRouter
  openRouterKey := ""
  openRouterUrl := "https://openrouter.ai/api/v1"
  openRouterModel := "anthropic/claude-opus-4.6"
  geminiKey := ""
  geminiModel := "gemini-3.1-pro-preview"
  temperature := 0.3
  maxTokens := 12000
  maxAttempts := 3
  httpTimeout := 0
  referer := "https://academy.pauseplayrepeat.com"
  appTitle := "Pause Play Repeat Video Generator"
  retryLimit := 3
  retryBase := 1
  retryCap := 60
  storePath := ""
  tracing := false
  tracingUri := ""
  experiment := "video-codegen-mcp"

/-- How settings are called in reports. -/
def title : String := "ServerConfig"

/-- Checks settings; a field that is missing has its standard value. -/
def check : Reader Settings :=
  readObject title fun fields =>
    Settings.mk
      <$> optional (.same "provider") readProvider standard.provider fields
      <*> optional (.same "openrouter_api_key") readText standard.openRouterKey fields
      <*> optional (.same "openrouter_base_url") readText standard.openRouterUrl fields
      <*> optional (.same "codegen_model") readText standard.openRouterModel fields
      <*> optional (.same "gemini_api_key") readText standard.geminiKey fields
      <*> optional (.same "gemini_model") readText standard.geminiModel fields
      <*> optional (.same "temperature") readTemperature standard.temperature fields
      <*> optional (.same "max_tokens") readCount standard.maxTokens fields
      <*> optional (.same "max_attempts") readCount standard.maxAttempts fields
      <*> optional (.same "http_timeout") readTimeout standard.httpTimeout fields
      <*> optional (.same "http_referer") readText standard.referer fields
      <*> optional (.same "app_title") readText standard.appTitle fields
      <*> optional (.same "retry_max_attempts") readCount standard.retryLimit fields
      <*> optional (.same "retry_base_delay") readDelay standard.retryBase fields
      <*> optional (.same "retry_max_delay") readDelay standard.retryCap fields
      <*> optional (.same "job_db_path") readText standard.storePath fields
      <*> optional (.same "tracing_enabled") readFlag standard.tracing fields
      <*> optional (.same "mlflow_tracking_uri") readText standard.tracingUri fields
      <*> optional (.same "mlflow_experiment_name") readText standard.experiment fields

/-- The fields of settings. -/
def body (settings : Settings) : Json := .object [
  ("provider", .text settings.provider.name),
  ("openrouter_api_key", .text settings.openRouterKey),
  ("openrouter_base_url", .text settings.openRouterUrl),
  ("codegen_model", .text settings.openRouterModel),
  ("gemini_api_key", .text settings.geminiKey),
  ("gemini_model", .text settings.geminiModel),
  ("temperature", .float settings.temperature),
  ("max_tokens", .int settings.maxTokens),
  ("max_attempts", .int settings.maxAttempts),
  ("http_timeout", .float settings.httpTimeout),
  ("http_referer", .text settings.referer),
  ("app_title", .text settings.appTitle),
  ("retry_max_attempts", .int settings.retryLimit),
  ("retry_base_delay", .float settings.retryBase),
  ("retry_max_delay", .float settings.retryCap),
  ("job_db_path", .text settings.storePath),
  ("tracing_enabled", .bool settings.tracing),
  ("mlflow_tracking_uri", .text settings.tracingUri),
  ("mlflow_experiment_name", .text settings.experiment)]

end Settings

end Storyboard
