import Storyboard.Text.Pieces

/-!
# Where a store is kept

A path names a store by its components. Empty components and single dots say
nothing, and two dots take the component before them back, whether or not there is
a folder of that name.
-/

namespace Storyboard

/-- The components of a path. -/
structure Location where
  components : List (List Char)
deriving DecidableEq, Repr

namespace Location

/-- Adds a component to those before it. -/
def follow (components : List (List Char)) (next : List Char) : List (List Char) :=
  if next.isEmpty || next = ['.'] then components
  else if next = ['.', '.'] then components.dropLast
  else components ++ [next]

/-- The location that a path names. -/
def ofPath (path : String) : Location :=
  ⟨(Text.pieces (· = '/') path.toList).foldl follow []⟩

/-- A file whose name takes more bytes cannot be made. -/
def longestName : Nat := 255

/-- The name of the file is short enough. -/
def isNameable (location : Location) : Bool :=
  location.components.getLast?.all fun name => (String.ofList name).utf8ByteSize ≤ longestName

/-- What is kept at `inner` lies in the folder `outer`. -/
def contains (outer inner : Location) : Bool :=
  outer.components.isPrefixOf inner.components && outer ≠ inner

end Location

end Storyboard
