import Storyboard.Text.Blank
import Storyboard.Text.Pattern

/-!
# Markup tags

The name of a component begins with an ASCII capital. Its opening tag goes up to the next `>` and
ends in no slash; its closing tag has nothing but white space behind the name. Many opening tags
and no closing one are reported.
-/

namespace Storyboard.Review

open Text

/-- The first character of a component's name. -/
def isCapital (c : Char) : Bool := 'A' ≤ c && c ≤ 'Z'

/-- Further characters of a component's name. -/
def isNameChar (c : Char) : Bool := isWordChar c || c == '.'

/-- A character that begins or ends no tag. -/
def isInsideTag (c : Char) : Bool := c != '<' && c != '>'

/-- An opening tag, which does not close itself. -/
def openTag : Pattern :=
  [.one (· == '<'), .one isCapital, .most isNameChar, .wordEdge, .fewest isInsideTag,
    .notAfter '/', .one (· == '>')]

/-- A closing tag. -/
def closeTag : Pattern :=
  [.one (· == '<'), .one (· == '/'), .one isCapital, .most isNameChar, .most isBlank,
    .one (· == '>')]

/-- So many opening tags without a closing one are let pass. -/
def toleratedOpenTags : Nat := 3

/-- The report on so many opening tags. -/
def tagReport (opened : Nat) : String :=
  s!"Possible unclosed JSX tags ({opened} opening tags, 0 closing tags)"

/-- The report on unclosed tags. -/
def tagIssues (code : List Char) : List String :=
  let opened := openTag.count code
  if toleratedOpenTags < opened && closeTag.count code == 0 then [tagReport opened] else []

end Storyboard.Review
