import Storyboard.Checking.Reader
import Storyboard.Json.Strict

/-!
# Checking Json texts

A record that comes as Json text is read strictly and then checked like any other;
a text that is no strict Json is one issue of the whole.
-/

namespace Storyboard.Checking

/-- Checks a Json text. -/
def readDocument (reader : Reader α) (source : String) : Checked α :=
  ofText (fun source =>
    match Json.strictBreach? source, Json.read Json.strictRoom source with
    | some reason, _ => .reject (.badJson reason) (.text source)
    | none, .ok value => reader .text value
    | none, .error fault => .reject (.badJson fault.message) (.text source)) source

end Storyboard.Checking
