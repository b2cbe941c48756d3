import Storyboard.Decimal.Numeral
import Storyboard.Decimal.Places
import Storyboard.Decimal.Whole
import Storyboard.Moment.Date

/-!
# Moments

A moment is a day with a time of day, and perhaps the distance of its clock to universal
time. It is written as the date, the time to the second, the microseconds if there are any,
and the distance if it is told. Only a text of this form is read as a moment again: no other
is ever written where moments are kept.
-/

namespace Storyboard

namespace Moment

/-- A time of day. -/
structure Clock where
  hour : Fin 24
  minute : Fin 60
  second : Fin 60
  micros : Fin 1000000
deriving DecidableEq, Repr

/-- A time of day from counts, each of which starts again where the next greater unit begins. -/
def Clock.of (hours minutes seconds micros : Nat) : Clock :=
  ⟨Fin.ofNat 24 hours, Fin.ofNat 60 minutes, Fin.ofNat 60 seconds, Fin.ofNat 1000000 micros⟩

/-- The beginning of a day. -/
def Clock.midnight : Clock := .of 0 0 0 0

/-- How far a clock is ahead of universal time: less than a day. -/
structure Zone where
  minutes : Int
  short : minutes.natAbs < 1440
deriving DecidableEq, Repr

/-- Universal time. -/
def Zone.universal : Zone := ⟨0, by decide⟩

/-- The distance of so many hours and minutes. -/
def Zone.of (behind : Bool) (hours : Fin 24) (minutes : Fin 60) : Zone :=
  ⟨Decimal.signed behind (60 * hours + minutes), by cases behind <;> simp [Decimal.signed] <;> omega⟩

end Moment

/-- A moment. Years are counted from one. -/
structure Moment where
  date : Moment.Date
  counted : 0 < date.year
  clock : Moment.Clock
  /-- It is left open where the clock stands when there is no zone. -/
  zone : Option Moment.Zone
deriving DecidableEq, Repr

namespace Moment

open Decimal (paddedDigits digitsValue)

/-- A date as it is written. -/
def Date.chars (date : Date) : List Char :=
  paddedDigits 4 date.year ++ '-' :: paddedDigits 2 date.month ++ '-' :: paddedDigits 2 date.day

/-- A time of day as it is written. -/
def Clock.chars (clock : Clock) : List Char :=
  paddedDigits 2 clock.hour ++ ':' :: paddedDigits 2 clock.minute ++ ':' ::
    paddedDigits 2 clock.second ++
    if clock.micros = 0 then [] else '.' :: paddedDigits 6 clock.micros

/-- A distance as it is written. -/
def Zone.chars (zone : Zone) : List Char :=
  (if zone.minutes < 0 then '-' else '+') ::
    (paddedDigits 2 (zone.minutes.natAbs / 60) ++ ':' :: paddedDigits 2 (zone.minutes.natAbs % 60))

/-- A moment as it is written. -/
def text (moment : Moment) : String :=
  String.ofList (moment.date.chars ++ 'T' :: moment.clock.chars ++
    (moment.zone.map Zone.chars).getD [])

/-- The number of so many digits at the head, and what follows them. -/
def digits? (count : Nat) (text : List Char) : Option (Nat × List Char) :=
  let digits := text.take count
  if digits.length = count && digits.all Char.isDigit then some (digitsValue digits, text.drop count)
  else none

/-- The number of two digits below a bound at the head, and what follows them. -/
def below? (bound : Nat) (text : List Char) : Option (Fin bound × List Char) :=
  (digits? 2 text).bind fun (n, rest) => if h : n < bound then some (⟨n, h⟩, rest) else none

/-- What follows a character at the head. -/
def behind? (mark : Char) : List Char → Option (List Char)
  | [] => none
  | c :: rest => if c = mark then some rest else none

/-- The date at the head, and what follows it. -/
def dateAt? (text : List Char) : Option (Date × List Char) := do
  let (year, rest) ← digits? 4 text
  let (month, rest) ← digits? 2 (← behind? '-' rest)
  let (day, rest) ← digits? 2 (← behind? '-' rest)
  if h : isDay year month day then some (⟨year, month, day, h⟩, rest) else none

/-- The microseconds at the head, if they are there, and what follows them. -/
def microsAt? (text : List Char) : Option (Fin 1000000 × List Char) :=
  match behind? '.' text with
  | none => some (0, text)
  | some rest =>
    (digits? 6 rest).bind fun (n, rest) => if h : n < 1000000 then some (⟨n, h⟩, rest) else none

/-- The time of day at the head, and what follows it. -/
def clockAt? (text : List Char) : Option (Clock × List Char) := do
  let (hour, rest) ← below? 24 text
  let (minute, rest) ← below? 60 (← behind? ':' rest)
  let (second, rest) ← below? 60 (← behind? ':' rest)
  let (micros, rest) ← microsAt? rest
  return (⟨hour, minute, second, micros⟩, rest)

/-- The distance that is a whole text, if it is not empty. -/
def zoneOf? (text : List Char) : Option (Option Zone) :=
  match text with
  | [] => some none
  | sign :: rest =>
    if sign = '+' || sign = '-' then do
      let (hours, rest) ← below? 24 rest
      let (minutes, rest) ← below? 60 (← behind? ':' rest)
      if rest.isEmpty then some (some (.of (sign = '-') hours minutes)) else none
    else none

/-- The moment that a text is written for. -/
def ofText? (text : String) : Option Moment := do
  let (date, rest) ← dateAt? text.toList
  let (clock, rest) ← clockAt? (← behind? 'T' rest)
  let zone ← zoneOf? rest
  if h : 0 < date.year then some ⟨date, h, clock, zone⟩ else none

end Moment

end Storyboard
