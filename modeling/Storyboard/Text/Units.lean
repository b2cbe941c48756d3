import Storyboard.Text.Half

/-!
# Units of sixteen bits

A character beyond the first plane is a high and a low unit, every other one a
single unit. Two units form a pair only when they stand side by side in this
order; any other half stays alone.
-/

namespace Storyboard.Text

/-- Characters from here on take two units. -/
def firstPaired : Nat := 0x10000

/-- The high unit of a character that takes two. -/
def highUnit (code : Nat) : Nat := 0xD800 + (code - firstPaired) / 0x400

/-- The low unit of a character that takes two. -/
def lowUnit (code : Nat) : Nat := 0xDC00 + (code - firstPaired) % 0x400

/-- A high unit, which needs a low one after it. -/
def isHighUnit (unit : Nat) : Bool := 0xD800 ≤ unit && unit < 0xDC00

/-- A low unit, which needs a high one before it. -/
def isLowUnit (unit : Nat) : Bool := 0xDC00 ≤ unit && unit < 0xE000

/-- The character of a high and a low unit. -/
def pairedChar (high low : Nat) : Char :=
  Char.ofNat (firstPaired + (high - 0xD800) * 0x400 + (low - 0xDC00))

/-- The character of a code that stands alone. -/
def loneChar (code : Nat) : Char := if isHalf code then halfChar code else Char.ofNat code

/-- The characters of a run of codes, in which a high and a low unit form a pair. -/
def joinUnits : List Nat → List Char
  | [] => []
  | [code] => [loneChar code]
  | high :: low :: rest =>
    if isHighUnit high && isLowUnit low then pairedChar high low :: joinUnits rest
    else loneChar high :: joinUnits (low :: rest)

end Storyboard.Text
