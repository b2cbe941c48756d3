/-!
# Phases of a job

A job asks the model while it is attempting. It ends with the model's code, or
gives up: at once after forbidden code, otherwise when its attempts are used up.
-/

namespace Storyboard

/-- Where a job stands. -/
inductive Phase where
  | attempting
  | succeeded
  | securityAborted
  | exhausted
deriving DecidableEq, Repr

/-- The name of a phase in answers. -/
def Phase.name : Phase → String
  | .attempting => "attempting"
  | .succeeded => "succeeded"
  | .securityAborted => "security_aborted"
  | .exhausted => "exhausted_failing_over"

end Storyboard
