import Storyboard.Environment.Basic
import Storyboard.Text.Blank
import Storyboard.Text.Lines
import Storyboard.Text.Search

/-!
# The environment file

A file of assignments fills in variables that the environment lacks. A variable
counts as lacking when it is not set, blank, or only refers to itself; every
other variable keeps its value. Values are taken as they stand, without one pair
of matching quotes around them.
-/

namespace Storyboard

open Text

/-- A quote that may surround a value. -/
def isQuote (c : Char) : Bool := c == '"' || c == '\''

/-- The text without one pair of matching quotes around it. -/
def unquote (text : List Char) : List Char :=
  match text with
  | first :: second :: rest =>
    if isQuote first && (second :: rest).getLast? = some first then (second :: rest).dropLast
    else text
  | _ => text

/-- What may stand before an assignment. -/
def exportWord : List Char := "export ".toList

/-- The assignment on a line, if there is one. -/
def assignment? (line : List Char) : Option (String × String) :=
  let line := trimChars line
  if line.isEmpty || line.head? = some '#' then none
  else
    let line := if exportWord.isPrefixOf line then line.drop exportWord.length else line
    (splitFirst '=' (line.dropWhile isBlank)).bind fun (key, value) =>
      let key := trimChars key
      if key.isEmpty then none
      else some (String.ofList key, String.ofList (unquote (trimChars value)))

/-- The assignments of a file; the last one of a variable wins. -/
def readAssignments (content : String) : Environment :=
  Keyed.ofPairs ((lines content).filterMap fun line => assignment? line.toList)

/-- The text is blank or only refers to the variable, between quotes or not. -/
def isPlaceholder (name : String) (current : String) : Bool :=
  let bare := trimChars (unquote (trimChars current.toList))
  let reference := "$\x7b".toList ++ name.toList
  bare.isEmpty || bare == '$' :: name.toList || bare == reference ++ ['\x7d'] ||
    ((reference ++ ":-".toList).isPrefixOf bare && ['\x7d'].isSuffixOf bare)

/-- The variable has no value of its own. -/
def Environment.lacks (environment : Environment) (name : String) : Bool :=
  match environment.lookup name with
  | none => true
  | some current => isPlaceholder name current

/-- What filling in from a file leads to. -/
structure Filled where
  environment : Environment
  /-- The variables that were written, with their values. -/
  written : Environment
  /-- A name or value held a NUL character, at which filling in stopped. -/
  stopped : Bool

/-- A text that no environment holds. -/
def hasNul (text : String) : Bool := text.toList.contains '\x00'

/-- Writes the assignments of variables that the environment lacks. -/
def Environment.fill (environment : Environment) : Environment → Filled
  | [] => ⟨environment, [], false⟩
  | (name, value) :: rest =>
    if !environment.lacks name then environment.fill rest
    else if hasNul name || hasNul value then ⟨environment, [], true⟩
    else
      let later := Environment.fill (Keyed.put name value environment) rest
      { later with written := (name, value) :: later.written }

/-- Fills in from a file, if there is one. -/
def Environment.fillFrom (environment : Environment) (file : Option String) : Filled :=
  environment.fill ((file.map readAssignments).getD [])

end Storyboard
