import Storyboard.Text.Half
import Storyboard.Text.Printable

/-!
# Quoted texts in messages

A message shows a text between single quotes, or between double quotes when it
holds a single quote and no double one. The backslash, the quote in use and
every character that does not print are escaped.
-/

namespace Storyboard.Text

/-- The quote that surrounds a text. -/
def quoteFor (text : List Char) : Char :=
  if text.contains '\'' && !text.contains '"' then '"' else '\''

/-- One character inside the quotes. -/
def quotedChar (quote c : Char) : List Char :=
  if c == '\\' || c == quote then ['\\', c]
  else if c == '\t' then ['\\', 't']
  else if c == '\n' then ['\\', 'n']
  else if c == '\r' then ['\\', 'r']
  else if isPrintable c then [c]
  else codeEscape c

/-- The text between quotes, escaped. -/
def quotedChars (text : List Char) : List Char :=
  let quote := quoteFor text
  quote :: text.flatMap (quotedChar quote) ++ [quote]

/-- The text between quotes, escaped. -/
def quoted (text : String) : String := String.ofList (quotedChars text.toList)

end Storyboard.Text
