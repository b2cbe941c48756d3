import Storyboard.Address.Basic
import Storyboard.Json.Compact
import Storyboard.Json.Reader
import Storyboard.Model.Exchange
import Storyboard.Settings.Basic

/-!
# OpenRouter

Requests go to one address with the key in a header. The address, the headers and
the body are checked each time a request is sent. An answer is Json whose
first choice holds the content; a missing choice or message counts as no content,
and a value of another kind in its place is a fault of shape.
-/

namespace Storyboard.Model.OpenRouter

open Json (Entries)

/-- The headers of every request. -/
def headers (settings : Settings) (key : String) : List (String × String) := [
  ("Authorization", s!"Bearer {key}"),
  ("Content-Type", "application/json"),
  ("HTTP-Referer", settings.referer),
  ("X-Title", settings.appTitle)]

/-- The address of every request. -/
def url (settings : Settings) : String := s!"{settings.openRouterUrl}/chat/completions"

/-- How long to wait for an answer; zero is no limit. -/
def timeout (settings : Settings) : Option Float :=
  if settings.httpTimeout == 0 then none else some settings.httpTimeout

/-- The body of a request. -/
def payload (question : Question) : Json := .object [
  ("model", question.model),
  ("messages", .list [
    .object [("role", .text "system"), ("content", .text question.prompts.system)],
    .object [("role", .text "user"), ("content", .text question.prompts.user)]]),
  ("temperature", question.temperature),
  ("max_tokens", question.maxTokens)]

/-- Refuses a text that an encoding has no form for. -/
def checkText (encoding : Text.Encoding) (text : String) : Except Failure Unit :=
  match Text.encodeFault? encoding text with
  | some fault => .error (.encoding fault)
  | none => .ok ()

/-- The Json text of a body. -/
def writeBody (value : Json) : Except Failure String :=
  if value.isFinite then (checkText .utf8 value.compact).map fun _ => value.compact
  else .error .noJsonNumber

/-- Checks all that a request writes, and tells the address that it goes to. -/
def dial (url : String) (headers : List (String × String)) (question : Question) :
    Except Failure Address := do
  let address := (← (Address.read url).mapError Failure.address).target
  headers.forM fun header => checkText .ascii header.2
  let _ ← writeBody (payload question)
  checkText .ascii (String.ofList address.place)
  return address

/-- The headers of a request to an address, whose login stands in for the key. -/
def signed (address : Address) (headers : List (String × String)) : List (String × String) :=
  match address.credential? with
  | some credential => Keyed.put "Authorization" credential headers
  | none => headers

/-- Status codes of errors. -/
def isErrorStatus (status : Nat) : Bool := 400 ≤ status && status < 600

/-- The Json of a body, with room for `room` lists and objects in each other. -/
def readBody (room : Nat) (body : String) : Except Failure Json := do
  let text ← (Text.bodyText body).mapError Failure.decoding
  (Json.readDecoded room text).mapError Failure.ofReading

/-- The answer with one choice of this content. -/
def choiceOf (content : String) : Json := .object [
  ("choices", .list [.object [
    ("message", .object [("role", .text "assistant"), ("content", .text content)])]])]

/-- An answer over http. -/
structure Response where
  status : Nat
  body : String

/-- What a reply brings. -/
def respond : Reply → Except Failure Response
  | .failure failure => .error failure
  | .text content => (writeBody (choiceOf content)).map (⟨200, ·⟩)
  | .http status body => (checkText .utf8 body).map fun _ => ⟨status, body⟩
  | .json status .null => .ok ⟨status, ""⟩
  | .json status value => (writeBody value).map (⟨status, ·⟩)
  | .gemini _ _ => .error (.noContent .openRouter)

/-- The Json of an answer that came from an address. -/
def receive (room : Nat) (address : Address) (reply : Reply) : Except Failure Json := do
  let response ← respond reply
  if address.isRelative then .error (.addressKind address.text)
  else if isErrorStatus response.status then .error (.status response.status response.body)
  else readBody room response.body

/-- Sends a question, if all of the request can be written. -/
def send (url : String) (headers : List (String × String)) (timeout : Option Float)
    (question : Question) (wire : Wire) : Except Failure Json × Wire :=
  match dial url headers question with
  | .error failure => (.error failure, wire)
  | .ok address =>
    let endpoint := .openRouter address.text (signed address headers) timeout
    let (reply, wire) := wire.send ⟨endpoint, question⟩
    (receive wire.nesting address reply, wire)

/-- The entries of a value that should be an object. -/
def members : Json → Except Failure Entries
  | .object entries => .ok entries
  | value => .error (.shape (.noMember value.kindName "get"))

/-- The first of the choices, which are not vacant. -/
def firstChoice : Json → Except Failure Json
  | .list (choice :: _) => .ok choice
  | .text value => .ok (.text (String.ofList (value.toList.take 1)))
  | .object _ => .error (.shape .noFirst)
  | value => .error (.shape (.noItems value.kindName))

/-- The content of an answer, null when there is none. -/
def contentField (answer : Json) : Except Failure Json := do
  let choices := ((← members answer).lookup "choices").getD .null
  if choices.isVacant then return .null
  let choice ← members (← firstChoice choices)
  let message ← members ((choice.lookup "message").getD (.object []))
  return (message.lookup "content").getD .null

/-- The content of an answer. -/
def content (answer : Json) : Except Failure Json := do
  let value ← contentField answer
  if value.isVacant then .error (.noContent .openRouter) else return value

end Storyboard.Model.OpenRouter
