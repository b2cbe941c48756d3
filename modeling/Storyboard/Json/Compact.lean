import Storyboard.Decimal.Shortest
import Storyboard.Json.Basic
import Storyboard.Json.Literal

/-!
# Json without blanks

The shortest form of a value: nothing stands between tokens, and in texts only
the quote, the backslash and control characters are escaped. Doubles are written in a
layout, which is the one of messages unless another is named; non-finite ones are
written by name. In the ASCII form every other character is escaped as well; beyond
ASCII such characters stand in texts only.
-/

namespace Storyboard.Json

/-- One character inside a text. -/
def compactChar (c : Char) : List Char :=
  match shortEscape? c with
  | some letter => ['\\', letter]
  | none => if c.toNat < 0x20 then unitEscape c.toNat else [c]

/-- A text between quotes. -/
def compactText (text : String) : String :=
  String.ofList ('"' :: text.toList.flatMap compactChar ++ ['"'])

/-- A double. -/
def compactDouble (layout : Decimal.Layout) (x : Float) : String :=
  if x.isNaN then "NaN"
  else if x.isInf then (if x < 0 then "-Infinity" else "Infinity")
  else layout.write Decimal.shortestDigits x

section

variable (layout : Decimal.Layout)

mutual

/-- A value without blanks, with doubles in a layout. -/
def compactIn : Json → String
  | null => "null"
  | bool value => if value then "true" else "false"
  | int value => Decimal.wholeText value
  | float value => compactDouble layout value
  | text value => compactText value
  | list items => "[" ++ String.intercalate "," (compactItems items) ++ "]"
  | object entries => "\x7b" ++ String.intercalate "," (compactEntries entries) ++ "\x7d"

/-- The items of a list without blanks. -/
def compactItems : List Json → List String
  | [] => []
  | item :: rest => compactIn item :: compactItems rest

/-- The entries of an object without blanks. -/
def compactEntries : List (String × Json) → List String
  | [] => []
  | (key, value) :: rest => (compactText key ++ ":" ++ compactIn value) :: compactEntries rest

end

end

/-- A value without blanks. -/
def compact (value : Json) : String := value.compactIn Decimal.doubleLayout

/-- A value without blanks, in ASCII. -/
def compactAscii (value : Json) : String :=
  String.ofList (value.compact.toList.flatMap fun c => if c.toNat < 0x80 then [c] else unitEscapes c)

end Storyboard.Json
