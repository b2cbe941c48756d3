import Storyboard.Decimal.Fault

/-!
# Why a text is no Json

A flaw stands at a place of the text, which a message gives as line, column and
count of characters before it.
-/

namespace Storyboard.Json

/-- What is wrong at a place of the text. -/
inductive Flaw where
  | byteOrderMark
  | noValue
  | noKey
  | noColon
  | noComma
  | surplus
  | openText
  | controlCharacter
  | badEscape
  | badUnit
deriving DecidableEq, Repr

/-- The wording of a flaw. -/
def Flaw.message : Flaw → String
  | .byteOrderMark => "Unexpected UTF-8 BOM (decode using utf-8-sig)"
  | .noValue => "Expecting value"
  | .noKey => "Expecting property name enclosed in double quotes"
  | .noColon => "Expecting ':' delimiter"
  | .noComma => "Expecting ',' delimiter"
  | .surplus => "Extra data"
  | .openText => "Unterminated string starting at"
  | .controlCharacter => "Invalid control character at"
  | .badEscape => "Invalid \\escape"
  | .badUnit => "Invalid \\uXXXX escape"

/-- The kinds of values that hold others. -/
inductive Shape where
  | list
  | object
deriving DecidableEq, Repr

/-- Why reading stopped: a flaw with the count of characters left from its place
on, a number that is not read, or a list or object that lies in too many others. -/
inductive Stop where
  | flaw (flaw : Flaw) (left : Nat)
  | number (fault : Decimal.NumberFault)
  | tooDeep (shape : Shape)
deriving DecidableEq, Repr

/-- A flaw and where it stands in the text. -/
structure Problem where
  flaw : Flaw
  /-- Counted from one. -/
  line : Nat
  /-- Counted from one within the line. -/
  column : Nat
  /-- The count of characters before. -/
  offset : Nat
deriving DecidableEq, Repr

/-- The flaw at a place of the text. -/
def Problem.at (text : List Char) (flaw : Flaw) (left : Nat) : Problem :=
  let offset := text.length - left
  let before := text.take offset
  let column := (before.reverse.takeWhile (· ≠ '\n')).length + 1
  ⟨flaw, before.count '\n' + 1, column, offset⟩

/-- The wording of a problem. -/
def Problem.message (problem : Problem) : String :=
  s!"{problem.flaw.message}: line {problem.line} column {problem.column} (char {problem.offset})"

/-- Why a text is not read as Json. -/
inductive ReadFault where
  | problem (problem : Problem)
  | number (fault : Decimal.NumberFault)
  | tooDeep (shape : Shape)
deriving DecidableEq, Repr

/-- The name of a shape in messages. -/
def Shape.name : Shape → String
  | .list => "array"
  | .object => "object"

/-- The wording of a nesting that is too deep. -/
def Shape.depthMessage (shape : Shape) : String :=
  s!"maximum recursion depth exceeded while decoding a JSON {shape.name} from a unicode string"

/-- The wording of a fault. -/
def ReadFault.message : ReadFault → String
  | .problem found => found.message
  | .number fault => fault.message
  | .tooDeep shape => shape.depthMessage

end Storyboard.Json
