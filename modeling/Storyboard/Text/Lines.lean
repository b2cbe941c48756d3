import Storyboard.Text.Ranges

/-!
# Lines

A stored text is read with every line end turned into a line feed: carriage
return with line feed counts once, and a lone carriage return counts too. It is
then cut into lines at every character that ends a line in Unicode, the vertical
tab, the form feed and three of the information separators among them. The last
line needs no end, and an end at the very end of the text starts no line.
-/

namespace Storyboard.Text

/-- Characters at which a text is cut into lines. -/
def lineBreakRanges : List (Nat × Nat) := [
  (0x0A, 0x0D), (0x1C, 0x1E), (0x85, 0x85), (0x2028, 0x2029)]

/-- `c` ends a line. -/
def isLineBreak (c : Char) : Bool := inRanges lineBreakRanges c

/-- The text with each line end of the three common kinds as one line feed. -/
def unifyLineEnds : List Char → List Char
  | '\r' :: '\n' :: rest => '\n' :: unifyLineEnds rest
  | '\r' :: rest => '\n' :: unifyLineEnds rest
  | c :: rest => c :: unifyLineEnds rest
  | [] => []

/-- The lines of the text, without the characters that end them. -/
def splitLines : List Char → List (List Char)
  | [] => []
  | c :: rest =>
    if isLineBreak c then [] :: splitLines rest
    else
      match splitLines rest with
      | [] => [[c]]
      | line :: more => (c :: line) :: more

/-- A text is cut at its first line break. -/
theorem splitLines_append_break {c : Char} (h : isLineBreak c = true) (text rest : List Char)
    (fresh : ∀ d ∈ text, isLineBreak d = false) :
    splitLines (text ++ c :: rest) = text :: splitLines rest := by
  induction text with
  | nil => simp [splitLines, h]
  | cons d text ih =>
    simp [splitLines, fresh d List.mem_cons_self,
      ih fun e he => fresh e (List.mem_cons_of_mem _ he)]

/-- The lines of a stored text. -/
def lines (text : String) : List String :=
  (splitLines (unifyLineEnds text.toList)).map String.ofList

end Storyboard.Text
