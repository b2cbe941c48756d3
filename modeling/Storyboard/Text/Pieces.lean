/-!
# Cutting texts

A text is cut at every character that a test picks. There is one piece more than
there are such characters, and pieces may be empty.
-/

namespace Storyboard.Text

/-- The pieces of a text between the characters that a test picks. -/
def pieces (isCut : Char → Bool) : List Char → List (List Char)
  | [] => [[]]
  | c :: rest =>
    match isCut c, pieces isCut rest with
    | true, more => [] :: more
    | false, piece :: more => (c :: piece) :: more
    | false, [] => [[c]]

theorem length_pieces (isCut : Char → Bool) (text : List Char) :
    (pieces isCut text).length = text.countP isCut + 1 := by
  induction text with
  | nil => rfl
  | cons c rest ih =>
    cases h : isCut c <;> cases more : pieces isCut rest <;> simp_all [pieces]

end Storyboard.Text
