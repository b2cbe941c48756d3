import Storyboard.Decimal.Layout
import Storyboard.Decimal.Places
import Storyboard.Narration
import Storyboard.Text.Blank
import Storyboard.Text.Caseless
import Storyboard.Timeline

/-!
# The spoken words in a prompt

The model is told when each word is spoken. A long track is shown by its first
and last words with a line for those left out. Words that mark a turn, and long
words, are also shown as moments for an animation, with the words around them.
-/

namespace Storyboard.Prompt

open Decimal (NumberFault wholeText)

/-- A word with the frame at which it is spoken. -/
structure FramedWord where
  timing : WordTiming
  frame : Int

/-- Tracks of more words are shortened. -/
def longestTrack : Nat := 35

/-- So many words of a shortened track are shown at its head. -/
def trackHead : Nat := 20

/-- So many words of a shortened track are shown at its tail. -/
def trackTail : Nat := 10

/-- At most so many moments are shown. -/
def momentLimit : Nat := 15

/-- Words of more letters are moments. -/
def longestPlainWord : Nat := 6

/-- So many words before and after a moment are shown with it. -/
def contextReach : Nat := 2

/-- Words that mark a turn. -/
def turningWords : List String := [
  "but", "however", "this", "that", "so", "now", "finally",
  "first", "second", "third", "next", "then"]

/-- Punctuation that may end a word. -/
def isEndMark (c : Char) : Bool := c == ',' || c == '.' || c == '!' || c == '?'

/-- The words with their frames. -/
def framedWords (fps : Int) (words : List WordTiming) : Except NumberFault (List FramedWord) :=
  words.mapM fun timing => return ⟨timing, ← frameAt timing.start fps⟩

/-- The start of a word in seconds. -/
def FramedWord.seconds (word : FramedWord) : String := Decimal.fixedText 2 word.timing.start ++ "s"

/-- A word as a line of the timeline. -/
def FramedWord.line (word : FramedWord) : String :=
  s!"  - \"{word.timing.word}\" at {word.seconds} (frame {wholeText word.frame})"

/-- The line for words that are left out. -/
def elisionLine (count : Nat) : String := s!"  ... ({count} more words) ..."

/-- The lines of the timeline. -/
def timelineLines (words : List FramedWord) : List String :=
  let lines := words.map FramedWord.line
  if longestTrack < words.length then
    lines.take trackHead ++
      elisionLine (words.length - (trackHead + trackTail)) ::
      lines.drop (words.length - trackTail)
  else lines

/-- A word that an animation should mark. -/
def isMoment (word : String) : Bool :=
  let bare := Text.trimEnd isEndMark (Text.lower word)
  bare ∈ turningWords || longestPlainWord < bare.length

/-- The words around a place of the track. -/
def contextOf (words : List FramedWord) (index : Nat) : String :=
  String.intercalate " " <|
    ((words.take (index + contextReach + 1)).drop (index - contextReach)).map (·.timing.word)

/-- The places of the moments. -/
def momentIndices (words : List FramedWord) : List Nat :=
  (List.range words.length).filter fun index =>
    words[index]?.any fun word => isMoment word.timing.word

/-- A moment as a line. -/
def momentLine (words : List FramedWord) (index : Nat) : String :=
  match words[index]? with
  | some word =>
    s!"  - \"{contextOf words index}\" → frame {wholeText word.frame} ({word.seconds})"
  | none => ""

/-- What stands in place of moments when there are none. -/
def noMomentLine : String := "  - (pick moments from the timeline above)"

/-- The lines of the moments. -/
def momentLines (words : List FramedWord) : List String :=
  match (momentIndices words).take momentLimit with
  | [] => [noMomentLine]
  | indices => indices.map (momentLine words)

/-- The section on the spoken words. -/
def wordSection (words : List WordTiming) (fps : Int) : Except NumberFault String := do
  let framed ← framedWords fps words
  return s!"### Word timeline ({words.length} words)\n" ++
    String.intercalate "\n" (timelineLines framed) ++
    "\n\n### Key moments (animation triggers)\n" ++
    String.intercalate "\n" (momentLines framed) ++
    "\nStart visuals 0-15 frames BEFORE the matching word is spoken.\n"

end Storyboard.Prompt
