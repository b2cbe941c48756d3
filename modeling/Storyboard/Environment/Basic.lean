import Storyboard.Keyed

/-!
# The environment

The variables of a process, each with its text.
-/

namespace Storyboard

/-- Variables with their values. -/
abbrev Environment := List (String × String)

/-- The value of a variable, or `fallback` when it is not set. -/
def Environment.valueOr (environment : Environment) (name fallback : String) : String :=
  (environment.lookup name).getD fallback

end Storyboard
