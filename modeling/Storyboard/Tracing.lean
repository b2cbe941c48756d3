import Storyboard.Studio

/-!
# Tracing

Spans are recorded by a tracing service when it is installed and the settings
turn it on. A service that fails while it is set up or flushed is reported and
left alone; a span that it refuses is a failure.
-/

namespace Storyboard

/-- How a span is described; null where nothing is said. -/
structure SpanNote where
  name : Json
  kind : Json
  attributes : Json

/-- A call of the tracing service. -/
inductive TracerCall where
  | setUri (uri : String)
  | setExperiment (name : String)
  | recordGemini
  /-- Wraps a function now, or asks for a wrapper to be applied later. -/
  | span (wraps : Bool) (note : SpanNote)
  | flush

/-- A tracing service. -/
structure Tracer where
  installed : Bool
  /-- How a call fails, if it does. -/
  failure? : TracerCall → Option Failure

namespace Tracer

/-- The calls that are made, up to the first that fails, and that failure. -/
def perform (tracer : Tracer) : List TracerCall → List TracerCall × Option Failure
  | [] => ([], none)
  | call :: rest =>
    match tracer.failure? call with
    | some failure => ([call], some failure)
    | none =>
      let (made, failure) := tracer.perform rest
      (call :: made, failure)

/-- Spans are recorded. A service that is not installed asks for no settings. -/
def isEnabled (tracer : Tracer) : Action Bool :=
  if tracer.installed then Settings.tracing <$> Studio.configure else return false

/-- The calls that set the service up. -/
def setupCalls (settings : Settings) : List TracerCall :=
  [.setUri settings.tracingUri, .setExperiment settings.experiment] ++
  if settings.provider = .gemini then [.recordGemini] else []

/-- Sets the service up. -/
def setup (tracer : Tracer) : Action (List TracerCall) := do
  if ← tracer.isEnabled then
    let settings ← Studio.configure
    let (made, failure) := tracer.perform (setupCalls settings)
    Studio.note <| match failure with
      | none => [⟨.info, .tracing, s!"MLflow tracing enabled (uri={settings.tracingUri}, " ++
          s!"experiment={settings.experiment})"⟩]
      | some _ =>
        [⟨.warning, .tracing, "MLflow tracing setup failed — continuing without tracing"⟩]
    return made
  else return []

/-- Flushes what is recorded. -/
def shutdown (tracer : Tracer) : Action (List TracerCall) := do
  if ← tracer.isEnabled then
    let (made, failure) := tracer.perform [.flush]
    Studio.note <| match failure with
      | none => [⟨.info, .tracing, "MLflow traces flushed"⟩]
      | some _ => [⟨.warning, .tracing, "MLflow trace flush failed"⟩]
    return made
  else return []

/-- What becomes of a function that should be traced. -/
inductive Traced where
  | unchanged
  | wrapped
deriving DecidableEq, Repr

/-- Traces a function, with the calls that are made. -/
def trace (tracer : Tracer) (wraps : Bool) (note : SpanNote) :
    Action (Except Failure Traced × List TracerCall) := do
  if ← tracer.isEnabled then
    let (made, failure) := tracer.perform [.span wraps note]
    return (match failure with
      | none => .ok .wrapped
      | some failure => .error failure, made)
  else return (.ok .unchanged, [])

/-- A service that is not installed. -/
def absent : Tracer := ⟨false, fun _ => none⟩

end Tracer

end Storyboard
