import Storyboard.Decimal.Shortest
import Storyboard.Json.Basic
import Storyboard.Text.Quoted

/-!
# Values in messages

A message shows the value it complains about: texts between quotes, lists and
objects between brackets with a comma and a space between their parts.
-/

namespace Storyboard.Json

/-- The texts with a separator between them. -/
def joined (parts : List String) : String := String.intercalate ", " parts

mutual

/-- A value as a message shows it. -/
def display : Json → String
  | null => "None"
  | bool value => if value then "True" else "False"
  | int value => Decimal.wholeText value
  | float value => Decimal.doubleText value
  | text value => Text.quoted value
  | list items => "[" ++ joined (displayItems items) ++ "]"
  | object entries => "\x7b" ++ joined (displayEntries entries) ++ "\x7d"

/-- The items of a list, each as a message shows it. -/
def displayItems : List Json → List String
  | [] => []
  | item :: rest => display item :: displayItems rest

/-- The entries of an object, each as a message shows it. -/
def displayEntries : List (String × Json) → List String
  | [] => []
  | (key, value) :: rest => (Text.quoted key ++ ": " ++ display value) :: displayEntries rest

end

end Storyboard.Json
