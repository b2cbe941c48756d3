import Storyboard.Tool.Catalog
import Storyboard.Tracing

/-!
# Serving a connection

Tracing is set up before the first call. An answer is sent with null in place of
each number that is not finite. After the last call the shared clients are closed,
the store is dropped and traces are flushed.
-/

namespace Storyboard.Server

/-- A call of a tool by name. -/
structure Call where
  tool : String
  arguments : Json.Entries

/-- What a call leads to: an answer, a refusal, or a failure. -/
abbrev Result := Except Failure (Option Json)

/-- Runs a step whose failure is its result. -/
def attempted (action : Action α) : Action (Except Failure α) :=
  tryCatch (Except.ok <$> action) fun failure => return .error failure

/-- Answers a call. -/
def answer (call : Call) : Action (Option Json) :=
  return (← Tool.call call.tool call.arguments).map Json.finite

/-- Serves one connection with its calls, first to last. `closes` tells whether the
client of a key can be closed. -/
def serve (tracer : Tracer) (closes : String → Bool) (calls : List Call) :
    Action (List Result) := do
  let _ ← tracer.setup
  let results ← calls.mapM fun call => attempted (answer call)
  let closed ← Studio.closeClients closes
  Studio.dropStore
  let _ ← tracer.shutdown
  Studio.note [⟨.info, .server, s!"Lifespan shutdown: closed {closed} client(s)"⟩]
  return results

end Storyboard.Server
