/-!
# Dates

A date is written as four digits of the year, two of the month and two of the day,
with hyphens between them. Texts are taken as bytes, since a date that is cut off
is told by its count of bytes. A date also stands for the midnight it begins with,
which a count of seconds since the start of 1970 names as well.
-/

namespace Storyboard.Moment

/-- Why a text is no date. -/
inductive DateFault where
  | tooShort
  | yearCharacter
  | monthCharacter
  | dayCharacter
  | separator
  | monthRange
  | dayRange
  | surplus
  /-- The count of seconds lies too early. -/
  | tooEarly
  /-- The count of seconds lies too late. -/
  | tooLate
deriving DecidableEq, Repr

/-- The wording of a fault. -/
def DateFault.message : DateFault → String
  | .tooShort => "input is too short"
  | .yearCharacter => "invalid character in year"
  | .monthCharacter => "invalid character in month"
  | .dayCharacter => "invalid character in day"
  | .separator => "invalid date separator, expected `-`"
  | .monthRange => "month value is outside expected range of 1-12"
  | .dayRange => "day value is outside expected range"
  | .surplus => "unexpected extra characters at the end of the input"
  | .tooEarly => "dates before 1600 are not supported as unix timestamps"
  | .tooLate => "dates after 9999 are not supported as unix timestamps"

/-- Every fourth year has a day more, of the centuries only every fourth. -/
def isLeap (year : Nat) : Bool := year % 4 = 0 && (year % 100 ≠ 0 || year % 400 = 0)

/-- The count of days in a month. -/
def monthLength? (year month : Nat) : Option Nat :=
  if month ∈ [1, 3, 5, 7, 8, 10, 12] then some 31
  else if month ∈ [4, 6, 9, 11] then some 30
  else if month = 2 then some (if isLeap year then 29 else 28)
  else none

/-- The calendar has this day. -/
def isDay (year month day : Nat) : Bool :=
  year < 10000 && (monthLength? year month).any fun length => 1 ≤ day && day ≤ length

/-- A day of the calendar. -/
structure Date where
  year : Nat
  month : Nat
  day : Nat
  real : isDay year month day = true
deriving DecidableEq, Repr

/-- The byte is an ASCII digit. -/
def isDigit (byte : UInt8) : Bool := 48 ≤ byte && byte ≤ 57

/-- The number that digits denote. -/
def number? (digits : List UInt8) : Option Nat :=
  if digits.all isDigit then
    some (digits.foldl (fun value digit => 10 * value + (digit.toNat - 48)) 0)
  else none

/-- The number that digits denote, or a fault. -/
def numberOr (fault : DateFault) (digits : List UInt8) : Except DateFault Nat :=
  match number? digits with
  | some n => .ok n
  | none => .error fault

/-- The byte between the parts of a date. -/
def hyphen : UInt8 := 45

/-- Refuses any byte but a hyphen. -/
def needHyphen (byte : UInt8) : Except DateFault Unit :=
  if byte = hyphen then .ok () else .error .separator

/-- The day with these numbers. -/
def Date.make (year month day : Nat) : Except DateFault Date :=
  if h : isDay year month day then .ok ⟨year, month, day, h⟩
  else if (monthLength? year month).isNone then .error .monthRange
  else .error .dayRange

/-- Reads a date from the head of a text. -/
def Date.atHead : List UInt8 → Except DateFault (Date × List UInt8)
  | y₁ :: y₂ :: y₃ :: y₄ :: first :: m₁ :: m₂ :: second :: d₁ :: d₂ :: rest => do
    let year ← numberOr .yearCharacter [y₁, y₂, y₃, y₄]
    needHyphen first
    let month ← numberOr .monthCharacter [m₁, m₂]
    needHyphen second
    let day ← numberOr .dayCharacter [d₁, d₂]
    return (← Date.make year month day, rest)
  | _ => .error .tooShort

/-- Reads a whole text as a date. -/
def Date.read (text : List UInt8) : Except DateFault Date := do
  let (date, rest) ← Date.atHead text
  if rest.isEmpty then return date else .error .surplus

/-- The count of days from the first day of year one to the first day of a year. -/
def daysBefore (year : Nat) : Nat :=
  365 * (year - 1) + (year - 1) / 4 - (year - 1) / 100 + (year - 1) / 400

/-- The year of the day with so many days before it: as many years begin with it or earlier. -/
def yearOf (days : Nat) : Nat :=
  ((List.range' 1 9999).filter fun year => daysBefore year ≤ days).length

/-- The month and the day, among these months, with so many days before it. -/
def monthOf? (year days : Nat) : List Nat → Option (Nat × Nat)
  | [] => none
  | month :: rest =>
    (monthLength? year month).bind fun length =>
      if days < length then some (month, days + 1) else monthOf? year (days - length) rest

/-- The day with so many days before it, from the first day of year one on. -/
def Date.after (days : Nat) : Except DateFault Date :=
  let year := yearOf days
  match monthOf? year (days - daysBefore year) (List.range' 1 12) with
  | some (month, day) => Date.make year month day
  | none => .error .dayRange

end Storyboard.Moment
