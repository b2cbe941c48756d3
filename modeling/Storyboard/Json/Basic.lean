/-!
# Json values

Whole numbers and doubles are kept apart, because a message and a check can tell
`1` from `1.0`. An object is the list of its entries, each key once, in the order
in which the keys first appeared.
-/

namespace Storyboard

/-- A Json value. -/
inductive Json where
  | null
  | bool (value : Bool)
  | int (value : Int)
  | float (value : Float)
  | text (value : String)
  | list (items : List Json)
  | object (entries : List (String × Json))
deriving Inhabited

namespace Json

/-- The entries of an object. -/
abbrev Entries := List (String × Json)

/-- Null, false, zero, or without content. -/
def isVacant : Json → Bool
  | null => true
  | bool value => !value
  | int value => value == 0
  | float value => value == 0
  | text value => value.isEmpty
  | list items => items.isEmpty
  | object entries => entries.isEmpty

/-- The kind of a value, as messages name it. -/
def kindName : Json → String
  | null => "NoneType"
  | bool _ => "bool"
  | int _ => "int"
  | float _ => "float"
  | text _ => "str"
  | list _ => "list"
  | object _ => "dict"

mutual

/-- All numbers in a value are finite. -/
def isFinite : Json → Bool
  | float value => value.isFinite
  | list items => areFinite items
  | object entries => entriesFinite entries
  | _ => true

/-- All numbers in the items of a list are finite. -/
def areFinite : List Json → Bool
  | [] => true
  | item :: rest => isFinite item && areFinite rest

/-- All numbers in the entries of an object are finite. -/
def entriesFinite : List (String × Json) → Bool
  | [] => true
  | (_, value) :: rest => isFinite value && entriesFinite rest

end

mutual

/-- The value with null in place of each number that is not finite. -/
def finite : Json → Json
  | float value => if value.isFinite then float value else null
  | list items => list (finiteItems items)
  | object entries => object (finiteEntries entries)
  | value => value

/-- The items of a list with null in place of such numbers. -/
def finiteItems : List Json → List Json
  | [] => []
  | item :: rest => finite item :: finiteItems rest

/-- The entries of an object with null in place of such numbers. -/
def finiteEntries : List (String × Json) → List (String × Json)
  | [] => []
  | (key, value) :: rest => (key, finite value) :: finiteEntries rest

end

mutual

/-- The texts in a value, first to last; the keys of objects are not among them. -/
def texts : Json → List String
  | text value => [value]
  | list items => textsOfItems items
  | object entries => textsOfEntries entries
  | _ => []

/-- The texts in the items of a list. -/
def textsOfItems : List Json → List String
  | [] => []
  | item :: rest => texts item ++ textsOfItems rest

/-- The texts in the entries of an object. -/
def textsOfEntries : List (String × Json) → List String
  | [] => []
  | (_, value) :: rest => texts value ++ textsOfEntries rest

end

end Json

end Storyboard
