import Storyboard.Model.Gemini
import Storyboard.Model.OpenRouter
import Storyboard.Model.Retry
import Storyboard.Settings.Source

/-!
# Asking a model

One question is one system and one user prompt to the provider that the settings
choose. Gemini clients are shared: the first question with a key creates the
client of that key, and later ones use it until all clients are closed.
-/

namespace Storyboard.Model

/-- The line to the models: what is on the wire, how requests are paced, and the
keys that have a client. -/
structure Line where
  wire : Wire
  pacing : Pacing
  clients : List String

/-- Values that one question sets in place of the settings. -/
structure Overrides where
  /-- Ignored when it is vacant. -/
  model : Json
  /-- Ignored when it is null. -/
  temperature : Json
  /-- Ignored when it is vacant. -/
  maxTokens : Json

/-- No value in place of the settings. -/
def Overrides.none : Overrides := ⟨.null, .null, .null⟩

/-- Adds to what the line has reported. -/
def Line.note (line : Line) (log : Log) : Line :=
  { line with pacing := { line.pacing with log := line.pacing.log ++ log } }

/-- So many characters at the end of a key are reported. -/
def shownKeyChars : Nat := 4

/-- The end of a key. -/
def keyTail (key : String) : String :=
  String.ofList (key.toList.drop (key.length - shownKeyChars))

/-- Makes sure that a key has a client. -/
def Line.withClient (line : Line) (key : String) : Line :=
  if key ∈ line.clients then line
  else { line.note [⟨.info, .model, s!"Created Gemini client (key …{keyTail key})"⟩] with
    clients := line.clients ++ [key] }

/-- The question with these prompts. -/
def Overrides.question (overrides : Overrides) (settings : Settings) (prompts : Prompts) :
    Question where
  model := if overrides.model.isVacant then .text settings.model else overrides.model
  temperature :=
    match overrides.temperature with
    | .null => .float settings.temperature
    | temperature => temperature
  maxTokens := if overrides.maxTokens.isVacant then .int settings.maxTokens else overrides.maxTokens
  prompts

/-- Puts the results of a paced exchange back on the line. -/
def Line.resume (line : Line) (outcome : Except Failure α × Wire × Pacing) :
    Except Failure α × Line :=
  (outcome.1, { line with wire := outcome.2.1, pacing := outcome.2.2 })

/-- Asks OpenRouter. -/
def Line.askOpenRouter (line : Line) (settings : Settings) (key : String) (question : Question) :
    Except Failure Json × Line :=
  let send := OpenRouter.send (OpenRouter.url settings) (OpenRouter.headers settings key)
    (OpenRouter.timeout settings) question
  let (answer, line) := line.resume
    ((RetryPolicy.ofSettings settings).run send line.wire line.pacing)
  (answer.bind OpenRouter.content, line)

/-- Asks Gemini. -/
def Line.askGemini (line : Line) (settings : Settings) (key : String) (question : Question) :
    Except Failure Json × Line :=
  let line := line.withClient key
  match Gemini.checkLimits question with
  | .error failure => (.error failure, line)
  | .ok question =>
    let (answer, line) := line.resume
      ((RetryPolicy.ofSettings settings).run (Gemini.send key question) line.wire line.pacing)
    (answer.bind fun answer => answer.content.map Json.text, line)

/-- Asks the chosen provider. The content of an answer is a text, or whatever value
the provider put in its place. -/
def Line.ask (line : Line) (settings : Settings) (overrides : Overrides) (prompts : Prompts) :
    Except Failure Json × Line :=
  match settings.requireKey with
  | .error failure => (.error failure, line)
  | .ok key =>
    let question := overrides.question settings prompts
    match settings.provider with
    | .openRouter => line.askOpenRouter settings key question
    | .gemini => line.askGemini settings key question

/-- Closes all clients. A client that cannot be closed is reported and dropped. -/
def Line.closeClients (line : Line) (closes : String → Bool) : Nat × Line :=
  let failed : Log := (line.clients.filter fun key => !closes key).map fun _ =>
    ⟨.debug, .model, "Gemini async client close failed"⟩
  let count := line.clients.length
  let closed : LogEntry := ⟨.info, .model, s!"Closed {count} Gemini client(s)"⟩
  (count, { line.note (failed ++ [closed]) with clients := [] })

end Storyboard.Model
