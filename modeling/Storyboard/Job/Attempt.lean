import Storyboard.Fence
import Storyboard.Job.Phase
import Storyboard.Model.Client
import Storyboard.Review.Basic

/-!
# Attempts

An attempt asks the model once, takes the code from its reply and reviews it. What
goes wrong on the way is part of the attempt, if it tells its message; if it does not,
another failure gets out of the attempt. `LoopState.advance` decides what follows: code
that passes ends the job, forbidden code and a failure that gets out end it too, and any
other attempt is followed by the next one while the budget lasts.
-/

namespace Storyboard

/-- What became of one question to the model. -/
structure Attempt where
  index : Int
  /-- The user prompt. -/
  prompt : String
  /-- The content of the answer. -/
  reply : Option Json
  code : Option String
  verdict : Option Review.Verdict
  error : Option String
  /-- The failure that gets out of the attempt, since what went wrong is not told. -/
  escape : Option Failure

namespace Attempt

/-- The attempt brought code that passes the review. -/
def passed (attempt : Attempt) : Bool := attempt.verdict.any (·.passed)

/-- What the next attempt is told. -/
def diagnostics (attempt : Attempt) : List String :=
  match attempt.error, attempt.verdict with
  | some error, _ => [error]
  | none, some verdict => verdict.issues
  | none, none => []

/-- The attempt brought forbidden code. -/
def isForbidden (attempt : Attempt) : Bool :=
  attempt.code.any fun code => !(Review.Layer.safety.review code).passed

/-- The attempt in which something went wrong, if it tells what. -/
def failed (index : Int) (prompt : String) (reply : Option Json) (failure : Failure) :
    Attempt × Log :=
  let log : Log := [⟨.warning, .generation, s!"Attempt {index + 1} raised: {failure.message}"⟩]
  match failure.describe with
  | .ok error => (⟨index, prompt, reply, none, none, some error, none⟩, log)
  | .error other => (⟨index, prompt, reply, none, none, none, some other⟩, log)

/-- The attempt that an answer leads to. -/
def ofAnswer (index : Int) (prompt : String) (answer : Except Failure Json) : Attempt × Log :=
  match answer with
  | .error failure => failed index prompt none failure
  | .ok (.text reply) =>
    let code := Fence.code reply
    (⟨index, prompt, some (.text reply), some code, some (Review.review code), none, none⟩, [])
  | .ok value => failed index prompt (some value) (.shape (.noMember value.kindName "strip"))

/-- Asks the model once. -/
def run (settings : Settings) (index : Int) (prompts : Model.Prompts) (line : Model.Line) :
    Attempt × Model.Line :=
  let (answer, line) := line.ask settings .none prompts
  let (attempt, log) := ofAnswer index prompts.user answer
  (attempt, line.note log)

end Attempt

/-- Where a job stands. -/
structure LoopState where
  phase : Phase
  /-- The number of the attempt at hand, counted from zero. -/
  attempt : Int
  /-- What was wrong with the attempt before. -/
  diagnostics : List String
deriving DecidableEq, Repr

namespace LoopState

/-- Before the first attempt. -/
def start : LoopState := ⟨.attempting, 0, []⟩

/-- After an attempt, within a budget of attempts. -/
def afterAttempt (state : LoopState) (attempt : Attempt) (budget : Int) : LoopState :=
  if attempt.passed then ⟨.succeeded, state.attempt, []⟩
  else if attempt.isForbidden then ⟨.securityAborted, state.attempt, attempt.diagnostics⟩
  else if attempt.escape.isSome then ⟨.exhausted, state.attempt, []⟩
  else if state.attempt + 1 < budget then
    ⟨.attempting, state.attempt + 1, attempt.diagnostics⟩
  else ⟨.exhausted, state.attempt, attempt.diagnostics⟩

/-- The state that follows. Attempting needs an attempt; a job that ended goes no
further. -/
def advance (state : LoopState) (attempt : Option Attempt) (budget : Int) :
    Except Failure LoopState :=
  match state.phase, attempt with
  | .securityAborted, _ => .ok { state with phase := .exhausted }
  | .attempting, some attempt => .ok (state.afterAttempt attempt budget)
  | .attempting, none => .error .attemptNeeded
  | phase, _ => .error (.finished phase)

end LoopState

/-- How often a job asks the model when nothing else is set. -/
def standardBudget : Int := 3

end Storyboard
