import Storyboard.Decimal.Numeral
import Storyboard.Json.Basic
import Storyboard.Json.Fault
import Storyboard.Json.Literal
import Storyboard.Keyed

/-!
# Reading Json

Each reader takes a text from its head and returns what it read with the rest.
Between tokens stand spaces, tabs and the two line end characters only. Besides
the standard's values the three names of non-finite numbers are read. A key that
is repeated in an object keeps its place and takes the last value.

There is room for a number of lists and objects in each other only, which whoever
reads a text sets. A value inside of one is shorter than the text around it, so the
length of the text bounds the steps as well; `read` starts with that bound.
-/

namespace Storyboard.Json

open Storyboard.Text
open Storyboard.Decimal (NumberFault maxDigits digitsValue doubleOfDecimal)

/-- What a reader returns: a value and the rest of the text, or why it stopped. -/
abbrev Reading (α : Type) := Except Stop (α × List Char)

/-- A flaw at the head of `rest`. -/
def flawAt (flaw : Flaw) (rest : List Char) : Except Stop α := .error (.flaw flaw rest.length)

/-- Characters between tokens. -/
def isGap (c : Char) : Bool := c == ' ' || c == '\t' || c == '\n' || c == '\r'

/-- The text from its first token on. -/
def skipGap (text : List Char) : List Char := text.dropWhile isGap

/-- The character for which a letter stands after a backslash. -/
def escapedChar? (letter : Char) : Option Char :=
  match letter with
  | '"' => some '"'
  | '\\' => some '\\'
  | '/' => some '/'
  | 'b' => some '\x08'
  | 'f' => some '\x0c'
  | 'n' => some '\n'
  | 'r' => some '\r'
  | 't' => some '\t'
  | _ => none

/-- The unit of sixteen bits that four hexadecimal digits denote. -/
def unitOf? (a b c d : Char) : Option Nat := do
  let a ← hexValue? a
  let b ← hexValue? b
  let c ← hexValue? c
  let d ← hexValue? d
  return ((a * 16 + b) * 16 + c) * 16 + d

/-- Adds a code to what the rest of a text was read as. -/
def addCode (code : Nat) (reading : Reading (List Nat)) : Reading (List Nat) :=
  reading.map fun (codes, rest) => (code :: codes, rest)

/-- Reads the codes of a text after its opening quote: an escape of a unit gives
that unit, any other character its code point. `opened` counts the characters
from the opening quote on. -/
def readCodes (opened : Nat) : List Char → Reading (List Nat)
  | [] => .error (.flaw .openText opened)
  | '"' :: rest => .ok ([], rest)
  | '\\' :: [] => .error (.flaw .openText opened)
  | '\\' :: 'u' :: a :: b :: c :: d :: rest =>
    match if rest.isEmpty then none else unitOf? a b c d with
    | some unit => addCode unit (readCodes opened rest)
    | none => flawAt .badUnit ('u' :: a :: b :: c :: d :: rest)
  | '\\' :: 'u' :: rest => flawAt .badUnit ('u' :: rest)
  | '\\' :: letter :: rest =>
    match escapedChar? letter with
    | some c => addCode c.toNat (readCodes opened rest)
    | none => flawAt .badEscape ('\\' :: letter :: rest)
  | c :: rest =>
    if c.toNat < 0x20 then flawAt .controlCharacter (c :: rest)
    else addCode c.toNat (readCodes opened rest)

/-- Reads a text after its opening quote. -/
def readText (rest : List Char) : Reading String :=
  (readCodes (rest.length + 1) rest).map fun (codes, rest) =>
    (String.ofList (joinUnits codes), rest)

/-- The digits of a whole number: one zero, or a run that starts with no zero. -/
def wholeDigits : List Char → List Char
  | '0' :: _ => ['0']
  | digits => digits.takeWhile Char.isDigit

/-- The digits after a point at the head, if there are any. -/
def fractionDigits : List Char → List Char
  | '.' :: rest => rest.takeWhile Char.isDigit
  | _ => []

/-- An exponent at the head, with the count of characters it takes. -/
def exponentAt? : List Char → Option (Int × Nat)
  | mark :: rest =>
    if mark = 'e' || mark = 'E' then
      let (negative, unsigned) := Decimal.splitSign rest
      let digits := unsigned.takeWhile Char.isDigit
      if digits.isEmpty then none
      else
        let value : Int := digitsValue digits
        let signLength := rest.length - unsigned.length
        some (if negative then -value else value, 1 + signLength + digits.length)
    else none
  | [] => none

/-- Reads an unsigned number; `start` is the text from the sign on. -/
def readSize (negative : Bool) (start text : List Char) : Reading Json :=
  let whole := wholeDigits text
  if whole.isEmpty then flawAt .noValue start
  else
    let afterWhole := text.drop whole.length
    let fraction := fractionDigits afterWhole
    let afterFraction := afterWhole.drop (if fraction.isEmpty then 0 else fraction.length + 1)
    let finish (exponent : Int) (rest : List Char) : Reading Json :=
      let size := doubleOfDecimal (digitsValue (whole ++ fraction)) (exponent - fraction.length)
      .ok (.float (if negative then -size else size), rest)
    match exponentAt? afterFraction with
    | some (exponent, length) => finish exponent (afterFraction.drop length)
    | none =>
      if !fraction.isEmpty then finish 0 afterFraction
      else if maxDigits < whole.length then .error (.number (.tooManyDigits whole.length))
      else
        let size : Int := digitsValue whole
        .ok (.int (if negative then -size else size), afterWhole)

/-- Reads a number. -/
def readNumber (text : List Char) : Reading Json :=
  match text with
  | '-' :: rest => readSize true text rest
  | _ => readSize false text text

/-- The values that are written as names. -/
def namedValues : List (List Char × Json) := [
  ("null".toList, .null), ("true".toList, .bool true), ("false".toList, .bool false),
  ("NaN".toList, .float (0.0 / 0.0)), ("Infinity".toList, .float (1.0 / 0.0)),
  ("-Infinity".toList, .float (-1.0 / 0.0))]

/-- A named value at the head. -/
def namedAt? (text : List Char) : Option (Json × List Char) :=
  (namedValues.find? fun named => named.1.isPrefixOf text).map fun named =>
    (named.2, text.drop named.1.length)

/-- Refuses a list or object for which there is no room. -/
def checkNesting (shape : Shape) (room : Nat) : Except Stop Unit :=
  if room = 0 then .error (.tooDeep shape) else .ok ()

mutual

/-- Reads a value at the head, with room for `room` lists and objects in each other. -/
def readValue (depth room : Nat) (text : List Char) : Except Stop (Json × List Char) :=
  match depth with
  | 0 => flawAt .noValue text
  | depth + 1 =>
    match text with
    | '"' :: rest => (readText rest).map fun (value, rest) => (.text value, rest)
    | '[' :: rest => do
      checkNesting .list room
      match skipGap rest with
      | ']' :: rest => .ok (.list [], rest)
      | rest => (readItems depth room rest).map fun (items, rest) => (.list items, rest)
    | '{' :: rest => do
      checkNesting .object room
      match skipGap rest with
      | '}' :: rest => .ok (.object [], rest)
      | rest =>
        (readPairs depth room rest).map fun (pairs, rest) => (.object (Keyed.ofPairs pairs), rest)
    | _ =>
      match namedAt? text with
      | some named => .ok named
      | none => readNumber text

/-- Reads the items of a list from the first one to the closing bracket, with room for the list. -/
def readItems (depth room : Nat) (text : List Char) : Except Stop (List Json × List Char) :=
  match depth with
  | 0 => flawAt .noValue text
  | depth + 1 => do
    let (item, rest) ← readValue depth (room - 1) text
    match skipGap rest with
    | ']' :: rest => .ok ([item], rest)
    | ',' :: rest =>
      let (items, rest) ← readItems depth room (skipGap rest)
      .ok (item :: items, rest)
    | rest => flawAt .noComma rest

/-- Reads the pairs of an object from the first key to the closing brace, with room for the
object. -/
def readPairs (depth room : Nat) (text : List Char) :
    Except Stop (List (String × Json) × List Char) :=
  match depth with
  | 0 => flawAt .noValue text
  | depth + 1 =>
    match text with
    | '"' :: rest => do
      let (key, rest) ← readText rest
      match skipGap rest with
      | ':' :: rest =>
        let (value, rest) ← readValue depth (room - 1) (skipGap rest)
        match skipGap rest with
        | '}' :: rest => .ok ([(key, value)], rest)
        | ',' :: rest =>
          let (pairs, rest) ← readPairs depth room (skipGap rest)
          .ok ((key, value) :: pairs, rest)
        | rest => flawAt .noComma rest
      | rest => flawAt .noColon rest
    | _ => flawAt .noKey text

end

/-- Reads a whole text as one value. -/
def readDocument (room : Nat) (text : List Char) : Except Stop Json := do
  let (value, rest) ← readValue (2 * text.length + 2) room (skipGap text)
  match skipGap rest with
  | [] => .ok value
  | rest => flawAt .surplus rest

/-- Refuses a byte order mark at the head. -/
def refuseMark (text : List Char) : Except Stop Unit :=
  if text.head? = some '\uFEFF' then flawAt .byteOrderMark text else .ok ()

/-- Where reading a text stopped. -/
def Stop.fault (text : List Char) : Stop → ReadFault
  | .flaw found left => .problem (.at text found left)
  | .number fault => .number fault
  | .tooDeep shape => .tooDeep shape

/-- Reads a text whose bytes have been decoded, byte order mark and all. -/
def readDecoded (room : Nat) (text : String) : Except ReadFault Json :=
  (readDocument room text.toList).mapError (Stop.fault text.toList)

/-- Reads a whole text as one value. -/
def read (room : Nat) (text : String) : Except ReadFault Json := do
  (refuseMark text.toList).mapError (Stop.fault text.toList)
  readDecoded room text

end Storyboard.Json
