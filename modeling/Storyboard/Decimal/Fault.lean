import Storyboard.Text.Quoted

/-!
# What can go wrong with a number

Each constructor is one cause; `NumberFault.message` words it.
-/

namespace Storyboard.Decimal

/-- Why a number cannot be read, rounded or divided. -/
inductive NumberFault where
  /-- An infinite double has no nearest whole number. -/
  | wholeOfInfinity
  /-- Nor has a double that is not a number. -/
  | wholeOfNaN
  /-- A whole number lies beyond the largest double. -/
  | beyondDouble
  /-- The quotient of two whole numbers lies beyond the largest double. -/
  | quotientBeyondDouble
  | divisionByZero
  /-- The text is no numeral of a whole number. -/
  | noWholeNumeral (text : String)
  /-- The text is no numeral of a real number. -/
  | noRealNumeral (text : String)
  /-- A whole number is written with more digits than are read. -/
  | tooManyDigits (count : Nat)
deriving DecidableEq, Repr

/-- A whole number of more digits than this is not read. -/
def maxDigits : Nat := 4300

/-- How many characters of a quoted numeral a message shows. -/
def shownNumeral : Nat := 200

/-- The wording of a fault. -/
def NumberFault.message : NumberFault → String
  | .wholeOfInfinity => "cannot convert float infinity to integer"
  | .wholeOfNaN => "cannot convert float NaN to integer"
  | .beyondDouble => "int too large to convert to float"
  | .quotientBeyondDouble => "integer division result too large for a float"
  | .divisionByZero => "division by zero"
  | .noWholeNumeral text =>
    "invalid literal for int() with base 10: " ++
      String.ofList ((Text.quotedChars text.toList).take shownNumeral)
  | .noRealNumeral text => "could not convert string to float: " ++ Text.quoted text
  | .tooManyDigits count =>
    s!"Exceeds the limit ({maxDigits} digits) for integer string conversion: " ++
      s!"value has {count} digits; use sys.set_int_max_str_digits() to increase the limit"

end Storyboard.Decimal
