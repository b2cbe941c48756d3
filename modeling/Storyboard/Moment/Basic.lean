import Storyboard.Checking.Reader
import Storyboard.Moment.Stamp
import Storyboard.Text.Utf8

/-!
# Checking moments

A moment comes as a date, one of four marks, a time of day, and perhaps the distance to
universal time. A date alone stands for its midnight, and a count of seconds names a moment
too. Of a fraction of a second six digits count.
-/

namespace Storyboard.Moment

open Checking

-- Powers are those of the core library, whatever else is imported.
attribute [local instance (high)] instPowNat Int.instNatPow

/-- Takes a byte off the head. -/
def take? (wanted : UInt8 → Bool) : List UInt8 → Option (List UInt8)
  | byte :: rest => if wanted byte then some rest else none
  | [] => none

/-- Takes two digits of a number below `bound` off the head. -/
def takeBelow? (bound : Nat) : List UInt8 → Option (Fin bound × List UInt8)
  | tens :: ones :: rest =>
    (number? [tens, ones]).bind fun n => if h : n < bound then some (⟨n, h⟩, rest) else none
  | _ => none

/-- The byte between hours, minutes and seconds. -/
def isColon (byte : UInt8) : Bool := byte = 58

/-- Marks between the seconds and their fraction. -/
def isFractionMark (byte : UInt8) : Bool := byte = 44 || byte = point

/-- Marks between the date and the time: `T` in both cases, the space, and the
underscore. -/
def isTimeMark (byte : UInt8) : Bool := byte = 84 || byte = 116 || byte = 32 || byte = 95

/-- The microseconds that the digits of a fraction stand for. -/
def fractionMicros (digits : List UInt8) : Nat :=
  (number? ((digits ++ List.replicate 6 48).take 6)).getD 0

/-- Takes the digits of a fraction off the head, at least one. -/
def takeFraction? (text : List UInt8) : Option (Nat × List UInt8) :=
  (take? isDigit text).map fun _ =>
    (fractionMicros (text.takeWhile isDigit), text.dropWhile isDigit)

/-- Takes the seconds of a time off the head, with their fraction, if they are there. -/
def takeSeconds? (text : List UInt8) : Option ((Nat × Nat) × List UInt8) :=
  match take? isColon text with
  | none => some ((0, 0), text)
  | some rest =>
    (takeBelow? 60 rest).bind fun (second, rest) =>
      match take? isFractionMark rest with
      | none => some ((second, 0), rest)
      | some fraction => (takeFraction? fraction).map fun (micros, rest) => ((second, micros), rest)

/-- Takes a time of day off the head. -/
def takeClock? (text : List UInt8) : Option (Clock × List UInt8) := do
  let (hour, rest) ← takeBelow? 24 text
  let (minute, rest) ← takeBelow? 60 (← take? isColon rest)
  let ((second, micros), rest) ← takeSeconds? rest
  return (.of hour minute second micros, rest)

/-- Takes the sign of a distance off the head: a plus sign, a hyphen, or the minus
sign, which is three bytes long. -/
def takeSign? : List UInt8 → Option (Bool × List UInt8)
  | 0xE2 :: 0x88 :: 0x92 :: rest => some (true, rest)
  | byte :: rest => if byte = 43 || byte = hyphen then some (byte = hyphen, rest) else none
  | [] => none

/-- The distance to universal time that a text is, if it is one or empty. A distance has
hours and minutes, with or without a colon between them, and is shorter than a day. -/
def readZone? (text : List UInt8) : Option (Option Zone) :=
  if text.isEmpty then some none
  else if text = [90] || text = [122] then some (some .universal)
  else do
    let (behind, rest) ← takeSign? text
    let (hours, rest) ← takeBelow? 24 rest
    let (minutes, rest) ← takeBelow? 60 ((take? isColon rest).getD rest)
    if rest.isEmpty then some (some (.of behind hours minutes)) else none

/-- The parts of a text that is a date with a time. -/
def dated? (text : List UInt8) : Option (Date × Clock × Option Zone) :=
  match Date.atHead text with
  | .error _ => none
  | .ok (date, rest) => do
    let (clock, rest) ← takeClock? (← take? isTimeMark rest)
    return (date, clock, ← readZone? rest)

/-- Accepts a moment on this date. -/
def acceptDate (date : Date) (clock : Clock) (zone : Option Zone) (value : Json) :
    Checked Moment :=
  if h : 0 < date.year then .accepted ⟨date, h, clock, zone⟩
  else .reject (.badMoment "year 0 is out of range") value

/-- Reads a text that is no date with a time, and no count that names a moment. -/
def readDateText (text : List UInt8) (value : Json) : Checked Moment :=
  match Date.read text, (writtenWhole? text).map (ofCount · 0) with
  | .ok date, _ => acceptDate date .midnight none value
  | .error _, some (.error fault) => .reject (.badDate fault.message) value
  | .error fault, _ => .reject (.badDate fault.message) value

/-- Reads a text. -/
def readMomentText (text : String) : Checked Moment :=
  let bytes := Text.utf8Bytes text
  match dated? bytes, writtenCount? bytes with
  | some (date, clock, zone), _ => acceptDate date clock zone (.text text)
  | none, some moment => .accepted moment
  | none, none => readDateText bytes (.text text)

/-- Accepts the moment that a count names. -/
def acceptCount (named : Except DateFault Moment) (value : Json) : Checked Moment :=
  match named with
  | .ok moment => .accepted moment
  | .error fault => .reject (.badMoment fault.message) value

/-- Reads a double. -/
def readReal (x : Float) : Checked Moment :=
  if x.isNaN then .reject (.badMoment "NaN values not permitted") (.float x)
  else acceptCount (ofReal x) (.float x)

/-- Reads a whole number. One of more than sixty-four bits is taken as a double,
unless it comes from Json text. -/
def readCount (origin : Origin) (n : Int) : Checked Moment :=
  if -2 ^ (63 : Nat) ≤ n && n < 2 ^ (63 : Nat) then acceptCount (ofCount n 0) (.int n)
  else
    match origin, Decimal.doubleOfInt n with
    | .value, .ok x => acceptCount (ofReal x) (.int n)
    | _, _ => .reject .notMoment (.int n)

/-- Checks that a value names a moment. -/
def check : Reader Moment := fun origin value =>
  match value with
  | .text text => ofText readMomentText text
  | .int n => readCount origin n
  | .float x => readReal x
  | _ => .reject .notMoment value

end Storyboard.Moment
