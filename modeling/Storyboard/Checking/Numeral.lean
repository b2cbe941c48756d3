import Storyboard.Decimal.Numeral
import Storyboard.Decimal.Whole

/-!
# Numbers in checked texts

A field that holds a number also takes its numeral. These numerals are looser
than Json's and use ASCII digits only. White space around them is dropped, and
underscores may stand between digits; a whole number may have a plus sign,
leading zeros, and a point with at least one zero after it.
-/

namespace Storyboard.Checking

open Storyboard.Text
open Storyboard.Decimal (digitsValue maxDigits plainReal?)

/-- The text has an underscore, none at its ends and no two in a row. -/
def hasLoneUnderscores (text : List Char) : Bool :=
  text.head? ≠ some '_' && text.getLast? ≠ some '_' && text.contains '_' &&
    !(text.zip text.tail).contains ('_', '_')

/-- The number that a text denotes. -/
def realNumeral? (text : String) : Option Float :=
  let chars := text.toList
  (plainReal? (trimWhere isSpace chars)).or <|
    if hasLoneUnderscores chars then plainReal? (chars.filter (· ≠ '_')) else none

/-- What a text says about a whole number. -/
inductive WholeNumeral where
  | value (n : Int)
  | malformed
  | tooLong
deriving DecidableEq, Repr

/-- A minus sign at the head, and what follows it. -/
def splitMinus : List Char → Bool × List Char
  | '-' :: rest => (true, rest)
  | text => (false, text)

/-- A whole number as Json writes it: a minus sign, and digits with no leading zero.
The sign counts against the limit on digits. -/
def strictWhole (text : List Char) : WholeNumeral :=
  let (negative, digits) := splitMinus text
  let padded := digits.head? = some '0' && 1 < digits.length
  if digits.isEmpty || !digits.all Char.isDigit || padded then .malformed
  else if maxDigits < text.length then .tooLong
  else .value (Decimal.signed negative (digitsValue digits))

/-- Drops the zeros and underscores after a leading zero; `before` is the character
before the text, which stays when a point or nothing follows. -/
def afterZeros? (before : Char) : List Char → Option (List Char)
  | [] => some [before]
  | c :: rest =>
    if c = '0' || c = '_' then afterZeros? c rest
    else if c.isDigit || c = '-' then some (c :: rest)
    else if c = '.' then some (before :: c :: rest)
    else none

/-- The text without leading zeros. -/
def dropLeadingZeros? : List Char → Option (List Char)
  | [] => none
  | c :: rest =>
    if c = '0' then afterZeros? c rest
    else if c.isDigit || c = '-' then some (c :: rest)
    else none

/-- The text without a point that only zeros follow. -/
def dropZeroFraction (text : List Char) : List Char :=
  match text.dropWhile (· ≠ '.') with
  | [] => text
  | _ :: fraction =>
    if !fraction.isEmpty && fraction.all (· = '0') then text.takeWhile (· ≠ '.') else text

/-- The text without one plus sign at its head, unless a minus sign follows that. -/
def dropPlus? : List Char → Option (List Char)
  | '+' :: '-' :: _ => none
  | '+' :: rest => some rest
  | text => some text

/-- The text as Json would write it, if it can be brought into that form: zeros are
dropped after the sign. -/
def plainWhole? (text : List Char) : Option (List Char) := do
  let (negative, size) := splitMinus (← dropPlus? (trimWhere isSpace text))
  let size ← dropLeadingZeros? size
  let body := dropZeroFraction (if negative then '-' :: size else size)
  return if hasLoneUnderscores body then body.filter (· ≠ '_') else body

/-- The whole number that a text denotes. Only a text that is plain as it stands can
be too long; any other one is malformed. -/
def wholeNumeral (text : String) : WholeNumeral :=
  match strictWhole text.toList with
  | .malformed =>
    match (plainWhole? text.toList).map strictWhole with
    | some (.value n) => .value n
    | _ => .malformed
  | result => result

/-- Doubles from here on are too large for a whole number. -/
def wholeLimit : Float := 9223372036854775808

end Storyboard.Checking
