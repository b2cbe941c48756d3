import Storyboard.Failure.Basic

/-!
# Requests and replies

A request carries a system and a user prompt to a provider. What comes back is
scripted by the outside: a text, an answer over http, an answer of the Gemini
service, or a failure. The wire hands out one reply per request, first to last,
and keeps every request that was sent.
-/

namespace Storyboard.Model

/-- What the model is told. -/
structure Prompts where
  system : String
  user : String
deriving DecidableEq, Repr

/-- Where a request goes. -/
inductive Endpoint where
  /-- An address with headers, and the time in seconds to wait for an answer. -/
  | openRouter (url : String) (headers : List (String × String)) (timeout : Option Float)
  /-- The service, through the client of this key. -/
  | gemini (key : String)

/-- A question to a model. Its caller may set the three values to anything. -/
structure Question where
  model : Json
  temperature : Json
  maxTokens : Json
  prompts : Prompts

/-- A question that is sent to a provider. -/
structure Request where
  endpoint : Endpoint
  question : Question

/-- A part of a Gemini answer. -/
structure Part where
  text : Option String
  /-- The part is a thought and no answer. -/
  thought : Bool
deriving DecidableEq, Repr

/-- A candidate of a Gemini answer: its content may be missing, and the parts of
its content as well. -/
structure Candidate where
  content : Option (Option (List Part))
deriving DecidableEq, Repr

/-- What comes back for a request. -/
inductive Reply where
  | failure (failure : Failure)
  /-- A well-built answer with this content. -/
  | text (content : String)
  | http (status : Nat) (body : String)
  /-- An answer over http whose body is this value; null is an empty body. -/
  | json (status : Nat) (value : Json)
  | gemini (candidates : List Candidate) (text : Option String)

/-- The replies that are left and the requests that were sent. -/
structure Wire where
  replies : List Reply
  /-- What a request meets when no reply is left. -/
  silence : Failure
  /-- So many lists and objects in each other are read in an answer. -/
  nesting : Nat
  sent : List Request

/-- Sends a request. -/
def Wire.send (wire : Wire) (request : Request) : Reply × Wire :=
  match wire.replies with
  | [] => (.failure wire.silence, { wire with sent := wire.sent ++ [request] })
  | reply :: rest => (reply, { wire with replies := rest, sent := wire.sent ++ [request] })

end Storyboard.Model
