import Storyboard.Domain.Alphabet
import Storyboard.Domain.Composed
import Storyboard.Domain.Context
import Storyboard.Domain.Direction
import Storyboard.Domain.Punycode
import Storyboard.Text.LowerCase
import Storyboard.Text.Mark
import Storyboard.Text.Pieces

/-!
# Domain names

A domain name is labels with dots between them. A label is made of the characters
of labels, in composed form, begins with no mark, begins and ends with no hyphen,
has no two hyphens in its third and fourth place, and goes one way. A label beyond
ASCII is written in Punycode behind a sign; a label with that sign has to be the
written form of a label. `encode?` writes a name that keeps these rules, and the
limits on the length of a label and of a name.
-/

namespace Storyboard.Domain

open Storyboard.Text (isMark lowerCase pieces)

/-- The dots between labels. -/
def dots : List Char := ['.', '\u3002', '\uFF0E', '\uFF61']

/-- Labels of more characters are not written. -/
def longestLabel : Nat := 63

/-- Names of more characters are not written; a dot at the end does not count. -/
def longestName : Nat := 253

/-- What a label that is written in Punycode begins with. -/
def punycodeSign : List Char := "xn--".toList

/-- Hyphens stand only where they may. -/
def hyphensFit (label : List Char) : Bool :=
  (label.drop 2).take 2 ≠ ['-', '-'] && label.head? ≠ some '-' && label.getLast? ≠ some '-'

/-- All characters stand in labels, or fit where they stand; `before` are those before,
last one first. -/
def charsFit (before : List Char) : List Char → Bool
  | [] => true
  | c :: rest => (isLabelChar c || fits before c rest) && charsFit (c :: before) rest

/-- The text is a label. -/
def isLabel (label : List Char) : Bool :=
  !label.isEmpty && isComposed label && hyphensFit label && !label.head?.any isMark &&
    charsFit [] label && isOneWay label

/-- The ASCII text is a label, or the written form of one. -/
def isPlainLabel (label : List Char) : Bool :=
  if punycodeSign.isPrefixOf label then
    let inner := label.drop punycodeSign.length
    !inner.isEmpty && inner.getLast? ≠ some '-' && (Punycode.decode? inner).any isLabel
  else isLabel label

/-- Writes a label in ASCII. -/
def encodeLabel? (label : List Char) : Option (List Char) :=
  let isPlain := label.all (·.toNat < 0x80)
  let written := if isPlain then label else punycodeSign ++ Punycode.encode label
  let isFit := if isPlain then isPlainLabel label else isLabel label
  if isFit && written.length ≤ longestLabel then some written else none

/-- Writes a domain name in ASCII. -/
def encode? (name : List Char) : Option (List Char) := do
  let name := lowerCase name
  if longestName + 1 < name.length then none
  let labels := pieces dots.contains name
  let isEnded := labels.getLast? = some []
  let written ← (if isEnded then labels.dropLast else labels).mapM encodeLabel?
  let whole := List.intercalate ['.'] written
  if written.isEmpty || longestName < whole.length then none
  else return if isEnded then whole ++ ['.'] else whole

end Storyboard.Domain
