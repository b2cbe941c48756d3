import Storyboard.Decimal.Fault
import Storyboard.Text.Blank
import Storyboard.Text.Digit

/-!
# Numerals

A numeral may stand between white space, uses the decimal digits of any script,
and may hold an underscore between two digits. `plainReal?` reads the plain form
that is left: a sign, digits with an optional point, an optional exponent, or
one of the names of infinity and of no number.
-/

namespace Storyboard.Decimal

open Storyboard.Text

/-- Decimal digits of every script as ASCII digits; other characters are kept. -/
def asciiDigits (text : List Char) : List Char :=
  text.map fun c => match digitValue? c with
    | some d => digitChar d
    | none => c

/-- The value of a run of ASCII digits. -/
def digitsValue (digits : List Char) : Nat :=
  digits.foldl (fun value c => 10 * value + asciiDigitValue c) 0

/-- A sign at the head, and what follows it. -/
def splitSign : List Char → Bool × List Char
  | '-' :: rest => (true, rest)
  | '+' :: rest => (false, rest)
  | text => (false, text)

/-- Every underscore stands between two ASCII digits. The flag tells whether the
character before is a digit. -/
def underscoresJoin : Bool → List Char → Bool
  | _, [] => true
  | afterDigit, c :: rest =>
    if c = '_' then afterDigit && rest.head?.any Char.isDigit && underscoresJoin false rest
    else underscoresJoin c.isDigit rest

/-- The text without underscores. -/
def dropUnderscores (text : List Char) : List Char := text.filter (· ≠ '_')

/-- A numeral without the white space around it, in ASCII digits. -/
def bareNumeral (text : String) : List Char := asciiDigits (trimWhere isSpace text.toList)

/-- The whole number that a numeral denotes. -/
def readWhole (text : String) : Except NumberFault Int :=
  let (negative, body) := splitSign (bareNumeral text)
  let run := body.takeWhile fun c => c.isDigit || c = '_'
  let digits := dropUnderscores run
  if digits.isEmpty || !underscoresJoin false run then .error (.noWholeNumeral text)
  else if maxDigits < digits.length then .error (.tooManyDigits digits.length)
  else if run.length < body.length then .error (.noWholeNumeral text)
  else .ok (if negative then -(digitsValue digits : Int) else digitsValue digits)

/-- Names of infinity, in lower case. -/
def infinityNames : List (List Char) := ["inf".toList, "infinity".toList]

/-- The name of no number, in lower case. -/
def nanName : List Char := "nan".toList

/-- The double nearest to `digits · 10 ^ exponent`. -/
def doubleOfDecimal (digits : Nat) (exponent : Int) : Float :=
  Float.ofScientific digits (exponent < 0) exponent.natAbs

/-- An exponent: nothing, or `e`, a sign and at least one digit. -/
def plainExponent? : List Char → Option Int
  | [] => some 0
  | mark :: rest =>
    let (negative, digits) := splitSign rest
    if (mark = 'e' || mark = 'E') && !digits.isEmpty && digits.all Char.isDigit then
      some (if negative then -(digitsValue digits : Int) else digitsValue digits)
    else none

/-- An unsigned decimal: digits before the point, after it, or both, and an exponent. -/
def plainDecimal? (text : List Char) : Option Float :=
  let before := text.takeWhile Char.isDigit
  let rest := text.dropWhile Char.isDigit
  let (after, tail) :=
    match rest with
    | '.' :: more => (more.takeWhile Char.isDigit, more.dropWhile Char.isDigit)
    | _ => ([], rest)
  if before.isEmpty && after.isEmpty then none
  else (plainExponent? tail).map fun exponent =>
    doubleOfDecimal (digitsValue (before ++ after)) (exponent - after.length)

/-- The double that a plain numeral denotes. -/
def plainReal? (text : List Char) : Option Float :=
  let (negative, size) := splitSign text
  let name := size.map Char.toLower
  let value :=
    if name ∈ infinityNames then some (1.0 / 0.0)
    else if name = nanName then some (0.0 / 0.0)
    else plainDecimal? size
  value.map fun x => if negative then -x else x

/-- The double that a numeral denotes. -/
def readReal (text : String) : Except NumberFault Float :=
  let bare := bareNumeral text
  if underscoresJoin false bare then
    match plainReal? (dropUnderscores bare) with
    | some x => .ok x
    | none => .error (.noRealNumeral text)
  else .error (.noRealNumeral text)

end Storyboard.Decimal
