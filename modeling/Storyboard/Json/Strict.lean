import Storyboard.Json.Reader
import Storyboard.Text.Utf8

/-!
# Strict Json

Records that are checked from their Json text are read more strictly than other
texts: nesting has a limit, a lone half is refused, and a place is counted in
bytes. Each function here takes a text from its head and returns what is left of
it, or the first breach with the count of bytes left from its place on. A text is
held as one character per byte.
-/

namespace Storyboard.Json

open Storyboard.Text (hexValue? isHighUnit isLowUnit)

/-- How a text breaks the grammar. -/
inductive Breach where
  | endInList
  | endInObject
  | endInText
  | endInValue
  | noColon
  | noItemEnd
  | noEntryEnd
  | noName
  | noValue
  | badEscape
  | badNumber
  | tooManyDigits
  | controlCharacter
  | keyNotText
  | loneHalf
  | trailingComma
  | surplus
  | brokenPair
  | tooDeep
deriving DecidableEq, Repr

/-- The wording of a breach. -/
def Breach.message : Breach → String
  | .endInList => "EOF while parsing a list"
  | .endInObject => "EOF while parsing an object"
  | .endInText => "EOF while parsing a string"
  | .endInValue => "EOF while parsing a value"
  | .noColon => "expected `:`"
  | .noItemEnd => "expected `,` or `]`"
  | .noEntryEnd => "expected `,` or `\x7d`"
  | .noName => "expected ident"
  | .noValue => "expected value"
  | .badEscape => "invalid escape"
  | .badNumber => "invalid number"
  | .tooManyDigits => "number out of range"
  | .controlCharacter => "control character (\\u0000-\\u001F) found while parsing a string"
  | .keyNotText => "key must be a string"
  | .loneHalf => "lone leading surrogate in hex escape"
  | .trailingComma => "trailing comma"
  | .surplus => "trailing characters"
  | .brokenPair => "unexpected end of hex escape"
  | .tooDeep => "recursion limit exceeded"

/-- What is left of a text, or a breach and how many bytes are left from its place. -/
abbrev Scan := Except (Breach × Nat) (List Char)

/-- A breach at the head of `rest`. -/
def breach (kind : Breach) (rest : List Char) : Except (Breach × Nat) α :=
  .error (kind, rest.length)

/-- Scans the letters of a name. -/
def scanName : List Char → List Char → Scan
  | [], rest => .ok rest
  | _, [] => breach .endInValue []
  | letter :: name, c :: rest => if c = letter then scanName name rest else breach .noName (c :: rest)

/-- Scans the digits after a mark, at least one. -/
def scanDigits (text : List Char) : Scan :=
  match text with
  | [] => breach .endInValue []
  | c :: rest => if c.isDigit then .ok (rest.dropWhile Char.isDigit) else breach .badNumber text

/-- Scans an exponent after its mark: a sign and digits. -/
def scanExponent : List Char → Scan
  | '-' :: rest => scanDigits rest
  | '+' :: rest => scanDigits rest
  | digits => scanDigits digits

/-- Scans an exponent, if there is one. -/
def scanExponent? (text : List Char) : Scan :=
  match text with
  | 'e' :: rest => scanExponent rest
  | 'E' :: rest => scanExponent rest
  | _ => .ok text

/-- Scans a point with digits and an exponent, as far as they are there. -/
def scanFraction (text : List Char) : Scan :=
  match text with
  | '.' :: rest => do scanExponent? (← scanDigits rest)
  | _ => scanExponent? text

/-- Scans an unsigned number; `start` is the text from the sign on. -/
def scanSize (start text : List Char) : Scan :=
  match text with
  | [] => breach .endInValue []
  | '0' :: c :: rest => if c.isDigit then breach .badNumber (c :: rest) else scanFraction (c :: rest)
  | 'I' :: rest => scanName "nfinity".toList rest
  | c :: rest =>
    if c.isDigit then
      let after := rest.dropWhile Char.isDigit
      if Decimal.maxDigits < start.length - after.length then
        breach .tooManyDigits (start.drop (Decimal.maxDigits + 1))
      else scanFraction after
    else breach .badNumber text

/-- Scans four hexadecimal digits after `u`. -/
def scanUnit (text : List Char) : Except (Breach × Nat) (Nat × List Char) :=
  match text with
  | a :: b :: c :: d :: rest =>
    match hexValue? a, hexValue? b, hexValue? c, hexValue? d with
    | some w, some x, some y, some z => .ok (((w * 16 + x) * 16 + y) * 16 + z, rest)
    | _, _, _, _ => breach .badEscape (text.dropWhile fun c => (hexValue? c).isSome)
  | _ => breach .endInText []

/-- Scans what must follow a high unit, whose last digit is `last`: an escape of a low one. -/
def scanPartner (rest : List Char) : Scan :=
  match rest with
  | [] => breach .endInText []
  | ['\\'] => breach .endInText []
  | '\\' :: 'u' :: digits => do
    let (unit, after) ← scanUnit digits
    if isLowUnit unit then return after else .error (.loneHalf, after.length + 1)
  | '\\' :: more => breach .brokenPair more
  | _ => breach .brokenPair rest

/-- Scans an escape after the backslash. -/
def scanEscape (text : List Char) : Scan :=
  match text with
  | [] => breach .endInText []
  | 'u' :: digits => do
    let (unit, after) ← scanUnit digits
    if isHighUnit unit then scanPartner after
    else if isLowUnit unit then .error (.loneHalf, after.length + 1)
    else return after
  | letter :: rest => if (escapedChar? letter).isSome then .ok rest else breach .badEscape text

/-- Scans a text after its opening quote, in at most `steps` steps. -/
def scanText (steps : Nat) (text : List Char) : Scan :=
  match steps, text with
  | _, [] => breach .endInText []
  | 0, _ => breach .endInText []
  | steps + 1, c :: rest =>
    if c = '"' then .ok rest
    else if c = '\\' then do scanText steps (← scanEscape rest)
    else if c.toNat < 0x20 then breach .controlCharacter text
    else scanText steps rest

/-- Scans a text whose quote is at the head. -/
def scanQuoted (text : List Char) : Scan := scanText text.length text.tail

/-- Scans a key and the colon after it. -/
def scanKey (text : List Char) : Scan := do
  let rest := skipGap (← scanQuoted text)
  match rest with
  | ':' :: rest => return rest
  | [] => breach .endInObject []
  | _ => breach .noColon rest

/-- Scans a value that is neither a text nor a list nor an object. -/
def scanScalar (text : List Char) : Scan :=
  match text with
  | [] => breach .endInValue []
  | 't' :: rest => scanName "rue".toList rest
  | 'f' :: rest => scanName "alse".toList rest
  | 'n' :: rest => scanName "ull".toList rest
  | 'N' :: rest => scanName "aN".toList rest
  | '-' :: rest => scanSize text rest
  | c :: _ => if c.isDigit || c = 'I' then scanSize text text else breach .noValue text

/-- From this many lists and objects around a filled one on, nesting is too deep. -/
def strictDepth : Nat := 200

/-- An empty list or object may lie in that many others. -/
def strictRoom : Nat := strictDepth + 1

/-- Refuses the first part of a list or object that lies too deep. -/
def checkDepth (level : Nat) (rest : List Char) : Scan :=
  if strictDepth ≤ level then breach .tooDeep rest else .ok rest

/-- The text from its first token on, which a value needs. -/
def nextToken (text : List Char) : Scan :=
  match skipGap text with
  | [] => breach .endInValue []
  | rest => .ok rest

mutual

/-- Scans a value inside of `level` lists and objects. -/
def scanValue (steps level : Nat) (text : List Char) : Scan :=
  match steps, text with
  | 0, _ => breach .tooDeep text
  | steps + 1, '[' :: rest =>
    match skipGap rest with
    | [] => breach .endInList []
    | ']' :: rest => .ok rest
    | rest => do scanItems steps level (← checkDepth level rest)
  | steps + 1, '{' :: rest =>
    match skipGap rest with
    | [] => breach .endInObject []
    | '}' :: rest => .ok rest
    | '"' :: rest => do
      let first ← nextToken (← scanKey ('"' :: rest))
      scanEntries steps level (← checkDepth level first)
    | rest => breach .keyNotText rest
  | _ + 1, '"' :: rest => scanQuoted ('"' :: rest)
  | _ + 1, scalar => scanScalar scalar

/-- Scans the items of a list from the first one to the closing bracket. -/
def scanItems (steps level : Nat) (text : List Char) : Scan :=
  match steps with
  | 0 => breach .tooDeep text
  | steps + 1 => do
    let rest := skipGap (← scanValue steps (level + 1) text)
    match rest with
    | [] => breach .endInList []
    | ']' :: rest => return rest
    | ',' :: rest =>
      match ← nextToken rest with
      | ']' :: rest => breach .trailingComma (']' :: rest)
      | rest => scanItems steps level rest
    | _ => breach .noItemEnd rest

/-- Scans the entries of an object from the first value to the closing brace. -/
def scanEntries (steps level : Nat) (text : List Char) : Scan :=
  match steps with
  | 0 => breach .tooDeep text
  | steps + 1 => do
    let rest := skipGap (← scanValue steps (level + 1) text)
    match rest with
    | [] => breach .endInObject []
    | '}' :: rest => return rest
    | ',' :: rest =>
      match ← nextToken rest with
      | '"' :: rest => do scanEntries steps level (← nextToken (← scanKey ('"' :: rest)))
      | '}' :: rest => breach .trailingComma ('}' :: rest)
      | rest => breach .keyNotText rest
    | _ => breach .noEntryEnd rest

end

/-- Scans a whole text. -/
def scanDocument (text : List Char) : Except (Breach × Nat) Unit := do
  match skipGap (← scanValue (2 * text.length + 2) 0 (← nextToken text)) with
  | [] => return ()
  | rest => breach .surplus rest

/-- The bytes of a text, one character for each. -/
def byteChars (text : String) : List Char :=
  (Text.utf8Bytes text).map fun byte => Char.ofNat byte.toNat

/-- A place in a text: its line, counted from one, and how many bytes of that line
lie before its end. A line end that is itself the place counts as the next line. -/
def placeOf (text : List Char) (index : Nat) : Nat × Nat :=
  let through := text.take (index + 1)
  (through.count '\n' + 1, (through.reverse.takeWhile (· ≠ '\n')).length)

/-- What keeps a text from being strict Json, in words. -/
def strictBreach? (text : String) : Option String :=
  let bytes := byteChars text
  match scanDocument bytes with
  | .ok _ => none
  | .error (kind, left) =>
    let (line, column) := placeOf bytes (bytes.length - left)
    some s!"{kind.message} at line {line} column {column}"

end Storyboard.Json
