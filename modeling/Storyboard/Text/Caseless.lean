/-!
# Comparing without case

Words are compared with ASCII words, so lower case matters only as far as such
a comparison, or a count of characters, can show it. The ASCII capitals and the
Kelvin sign become ASCII letters; the dotted capital I becomes an `i` and a
combining dot, which is one character more. Every other letter whose lower case
differs from it lies outside ASCII before and after, and is kept.
-/

namespace Storyboard.Text

/-- What one character becomes. -/
def lowerChar (c : Char) : List Char :=
  if c == '\u0130' then ['i', '\u0307']
  else if c == '\u212A' then ['k']
  else [c.toLower]

/-- The text in lower case, as far as ASCII words and counts can tell. -/
def lowerChars (text : List Char) : List Char := text.flatMap lowerChar

/-- The text in lower case, as far as ASCII words and counts can tell. -/
def lower (text : String) : String := String.ofList (lowerChars text.toList)

theorem lowerChars_append (a b : List Char) : lowerChars (a ++ b) = lowerChars a ++ lowerChars b := by
  simp [lowerChars]

end Storyboard.Text
