import Storyboard.Text.Blank
import Storyboard.Text.Pattern
import Storyboard.Text.Search

/-!
# Code inside a reply

A model often puts its code between fences: three ticks with a language tag on a
line of their own, and three ticks at the end. When fences surround the whole
reply the code between them is taken as it stands, ticks of its own included;
otherwise the first fenced block is taken, and a reply without one is code as a
whole. The code is a contiguous part of the reply.
-/

namespace Storyboard.Fence

open Storyboard.Text

/-- Three ticks. -/
def mark : List Char := ['\x60', '\x60', '\x60']

/-- Characters of a language tag. -/
def isTagChar (c : Char) : Bool := isWordChar c || c == '+' || c == '-'

/-- Characters that may follow a tag on its line. -/
def isPad (c : Char) : Bool := c == ' ' || c == '\t'

/-- What follows a fence line at the head of the text. -/
def afterOpening? (text : List Char) : Option (List Char) :=
  if mark.isPrefixOf text then
    match ((text.drop mark.length).dropWhile isTagChar).dropWhile isPad with
    | '\n' :: rest => some rest
    | '\r' :: '\n' :: rest => some rest
    | _ => none
  else none

/-- What stands before the first three ticks of the text. -/
def beforeMark? (text : List Char) : Option (List Char) :=
  Pattern.upTo? mark.isPrefixOf text

/-- A text is the end of a block that spans a whole reply: three ticks, with the end of a line
before them or without. The reply is trimmed, so nothing follows them. -/
def isEnd (text : List Char) : Bool :=
  [mark, '\n' :: mark, '\r' :: mark, '\r' :: '\n' :: mark].contains text

/-- The inside of a block that spans the whole text. -/
def wholeBlock? (text : List Char) : Option (List Char) :=
  (afterOpening? text).bind (Pattern.upTo? isEnd)

/-- The inside of the first block anywhere in the text. -/
def firstBlock? : List Char → Option (List Char)
  | [] => none
  | c :: rest => ((afterOpening? (c :: rest)).bind beforeMark?).or (firstBlock? rest)

/-- The code in a reply, trimmed. -/
def codeChars (reply : List Char) : List Char :=
  let text := trimChars reply
  match (wholeBlock? text).or (firstBlock? text) with
  | some inside => trimChars inside
  | none => text

/-- The code in a reply, trimmed. -/
def code (reply : String) : String := String.ofList (codeChars reply.toList)

end Storyboard.Fence
