/-!
# Providers

The services that run a model, with the variables that hold their keys.
-/

namespace Storyboard

/-- A service that runs a model. -/
inductive Provider where
  | openRouter
  | gemini
deriving DecidableEq, Repr

/-- The name of a provider in settings. -/
def Provider.name : Provider → String
  | .openRouter => "openrouter"
  | .gemini => "gemini"

/-- The provider of a name. -/
def Provider.ofName? (name : String) : Option Provider :=
  if name = Provider.openRouter.name then some .openRouter
  else if name = Provider.gemini.name then some .gemini
  else none

/-- The variable that holds the key of a provider. -/
def Provider.keyVariable : Provider → String
  | .openRouter => "OPENROUTER_API_KEY"
  | .gemini => "GEMINI_API_KEY"

end Storyboard
