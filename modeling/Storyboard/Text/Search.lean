/-!
# Finding one text in another

Containment is stated on character lists, where it is the relation `<:+:`. The
scan itself tries the needle at every position from the left.
-/

namespace Storyboard.Text

/-- `needle` occurs somewhere in `text`. -/
def occurs (needle : List Char) : List Char → Bool
  | [] => needle.isEmpty
  | c :: rest => needle.isPrefixOf (c :: rest) || occurs needle rest

/-- `needle` occurs somewhere in `text`. -/
def contains (text needle : String) : Bool := occurs needle.toList text.toList

theorem occurs_iff (needle text : List Char) : occurs needle text = true ↔ needle <:+: text := by
  induction text with
  | nil => cases needle <;> simp [occurs]
  | cons c rest ih =>
    simp only [occurs, Bool.or_eq_true, ih, List.isPrefixOf_iff_prefix, List.infix_cons_iff]

/-- The parts before and after the first occurrence of `mark`. -/
def splitFirst (mark : Char) : List Char → Option (List Char × List Char)
  | [] => none
  | c :: rest =>
    if c = mark then some ([], rest)
    else (splitFirst mark rest).map fun parts => (c :: parts.1, parts.2)

end Storyboard.Text
