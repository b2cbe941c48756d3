import Storyboard.Checking.Reader
import Storyboard.Model.Exchange

/-!
# Gemini

A question is checked before it is sent: the temperature is a double and the limit
of the answer a whole number. An answer has candidates with parts. The content is the texts of the first
candidate's parts that are no thoughts, one per line; an answer without such a
part falls back on its own text.
-/

namespace Storyboard.Model.Gemini

open Checking

/-- How the limits of a question are called in reports. -/
def title : String := "GenerateContentConfig"

/-- The temperature and the most tokens of an answer. -/
structure Limits where
  temperature : Float
  maxTokens : Int

/-- Checks limits. -/
def Limits.check : Reader Limits :=
  readObject title fun fields =>
    Limits.mk
      <$> required (.same "temperature") readDouble fields
      <*> required (.same "max_output_tokens") readWhole fields

/-- The question with checked limits. -/
def checkLimits (question : Question) : Except Failure Question :=
  let fields : Json := .object
    [("temperature", question.temperature), ("max_output_tokens", question.maxTokens)]
  ((Limits.check .value fields).orReport title .value).mapError .rejected |>.map fun limits =>
    { question with temperature := .float limits.temperature, maxTokens := .int limits.maxTokens }

/-- What a Gemini service answers. -/
structure Answer where
  candidates : List Candidate
  text : Option String

/-- What a reply brings. -/
def receive : Reply → Except Failure Answer
  | .failure failure => .error failure
  | .text content => .ok ⟨[⟨some (some [⟨some content, false⟩])⟩], some content⟩
  | .gemini candidates text => .ok ⟨candidates, text⟩
  | .http _ _ | .json _ _ => .error (.noContent .gemini)

/-- Sends a question through the client of a key. -/
def send (key : String) (question : Question) (wire : Wire) : Except Failure Answer × Wire :=
  let (reply, wire) := wire.send ⟨.gemini key, question⟩
  (receive reply, wire)

/-- The parts of the first candidate. -/
def Answer.parts (answer : Answer) : Except Failure (List Part) :=
  match answer.candidates with
  | [] => .ok []
  | ⟨none⟩ :: _ => .error (.shape (.noMember Json.null.kindName "parts"))
  | ⟨some none⟩ :: _ => .error (.shape (.noSequence Json.null.kindName))
  | ⟨some (some parts)⟩ :: _ => .ok parts

/-- The text of a part that belongs to the answer. -/
def Part.answerText? (part : Part) : Option String :=
  part.text.filter fun text => !text.isEmpty && !part.thought

/-- The content of an answer. -/
def Answer.content (answer : Answer) : Except Failure String := do
  let texts := (← answer.parts).filterMap Part.answerText?
  let content :=
    if texts.isEmpty then answer.text.getD "" else String.intercalate "\n" texts
  if content.isEmpty then .error (.noContent .gemini) else return content

end Storyboard.Model.Gemini
