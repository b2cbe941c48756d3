import Storyboard.Decimal.Whole
import Storyboard.Moment.Clock

/-!
# Counts of seconds

A moment is also named by the seconds since the start of 1970, or by the
milliseconds when there are more than `watershed` of them. Only the years 1600 to
9999 are named so, in universal time. A count may be a whole number or a double, and either may be
written out as a decimal without an exponent.
-/

namespace Storyboard.Moment

-- Powers are those of the core library, whatever else is imported.
attribute [local instance (high)] instPowNat instNatPowNat

/-- Counts further from zero are milliseconds. -/
def watershed : Int := 20000000000

/-- The first second of 1600. -/
def earliest : Int := -11676096000

/-- The last second of 9999. -/
def latest : Int := 253402300799

/-- The microseconds of a second. -/
def microseconds : Nat := 1000000

/-- The seconds of a count, and the microseconds that are left. -/
def splitCount (count : Int) : Int × Nat :=
  if watershed < count.natAbs then (count.fdiv 1000, (count.fmod 1000).toNat * 1000)
  else (count, 0)

/-- The seconds of a day. -/
def daySeconds : Nat := 86400

/-- The count of days from the first day of year one to the first of 1970. -/
def epoch : Nat := daysBefore 1970

/-- The time of day after so many seconds of it. -/
def Clock.after (seconds micros : Nat) : Clock :=
  .of (seconds / 3600) (seconds / 60) seconds micros

/-- The moment of a second. -/
def ofSecond (second : Int) (micros : Nat) : Except DateFault Moment := do
  let date ← Date.after (epoch + second.fdiv daySeconds).toNat
  if h : 0 < date.year then
    return ⟨date, h, .after (second.fmod daySeconds).toNat micros, some .universal⟩
  else .error .tooEarly

/-- The moment that a count with microseconds names. -/
def ofCount (count : Int) (micros : Nat) : Except DateFault Moment :=
  let (seconds, left) := splitCount count
  let second := seconds + ((left + micros) / microseconds : Nat)
  if second < earliest then .error .tooEarly
  else if latest < second then .error .tooLate
  else ofSecond second (left + micros)

/-- The greatest whole number that is not above `x`. -/
def floorOf? (x : Float) : Option Int :=
  match Decimal.truncate x with
  | .ok n => some (if x < Float.ofInt n then n - 1 else n)
  | .error _ => none

/-- The microseconds nearest to a part of a second. -/
def microsOf (part : Float) : Nat := (part * 1000000).round.toUInt64.toNat

/-- The moment that a count that is a double names. -/
def ofReal (x : Float) : Except DateFault Moment :=
  match floorOf? x, Decimal.truncate x with
  | some count, .ok whole => ofCount count (microsOf (x - Float.ofInt whole).abs)
  | _, _ => if x < 0 then .error .tooEarly else .error .tooLate

/-- A sign at the head, and what follows it. -/
def splitSign : List UInt8 → Bool × List UInt8
  | 45 :: rest => (true, rest)
  | 43 :: rest => (false, rest)
  | text => (false, text)

/-- Digits name no more than sixty-four bits with a sign. -/
def word? (digits : List UInt8) : Option Nat :=
  if digits.isEmpty then none else (number? digits).filter (· < 2 ^ (63 : Nat))

/-- The whole number that a text writes out. -/
def writtenWhole? (text : List UInt8) : Option Int :=
  let (negative, digits) := splitSign text
  (word? digits).map (Decimal.signed negative)

/-- What digits after a point add to a number, each worth a tenth of the one before. -/
def addFraction (x : Float) : Float → List UInt8 → Float
  | _, [] => x
  | unit, digit :: rest =>
    addFraction (x + Float.ofNat (digit.toNat - 48) / unit) (unit * 10) rest

/-- The byte before the digits of a fraction. -/
def point : UInt8 := 46

/-- The double that a text with a point writes out. -/
def writtenReal? (text : List UInt8) : Option Float :=
  let (negative, size) := splitSign text
  let whole := size.takeWhile isDigit
  match size.dropWhile isDigit, word? whole with
  | mark :: fraction, some n =>
    if mark = point && fraction.all isDigit then
      let x := addFraction (Float.ofNat n) 10 fraction
      some (if negative then -x else x)
    else none
  | _, _ => none

/-- The moment that a count names that a text writes out with a point. Milliseconds are
turned into seconds first. -/
def ofWritten (x : Float) : Except DateFault Moment :=
  let seconds := if Float.ofInt watershed < x.abs then x / 1000 else x
  match floorOf? seconds with
  | some count => ofCount count (microsOf (seconds - Float.ofInt count))
  | none => .error .tooLate

/-- The moment that a count names that a text writes out. -/
def writtenCount? (text : List UInt8) : Option Moment :=
  match writtenWhole? text, writtenReal? text with
  | some n, _ => (ofCount n 0).toOption
  | none, some x => (ofWritten x).toOption
  | none, none => none

end Storyboard.Moment
