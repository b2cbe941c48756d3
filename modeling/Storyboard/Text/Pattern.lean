import Storyboard.Text.WordChar

/-!
# Patterns

A pattern is a list of parts that match one after the other. A run may stop at any of its
characters: its parts say whether the longest or the shortest stop is tried first, and a stop is
given up when the rest of the pattern does not match behind it. A text is searched from the left,
and the search goes on behind a match, so that matches do not overlap. A match is thought to take
at least one character.
-/

namespace Storyboard.Text

/-- A part of a pattern. -/
inductive Part where
  /-- One character that passes the test. -/
  | one (test : Char → Bool)
  /-- A run of such characters, as long as possible. -/
  | most (test : Char → Bool)
  /-- A run of such characters, as short as possible. -/
  | fewest (test : Char → Bool)
  /-- A word starts or ends here. -/
  | wordEdge
  /-- The character before is another one. -/
  | notAfter (c : Char)

/-- Parts that match one after the other. -/
abbrev Pattern := List Part

namespace Pattern

/-- Matches a run and then `next`, the longest run first. -/
def longest (test : Char → Bool) (next : Option Char → List Char → Option (List Char)) :
    Option Char → List Char → Option (List Char)
  | before, [] => next before []
  | before, c :: rest =>
    if test c then
      match longest test next (some c) rest with
      | some span => some (c :: span)
      | none => next before (c :: rest)
    else next before (c :: rest)

/-- Matches a run and then `next`, the shortest run first. -/
def shortest (test : Char → Bool) (next : Option Char → List Char → Option (List Char)) :
    Option Char → List Char → Option (List Char)
  | before, [] => next before []
  | before, c :: rest =>
    match next before (c :: rest) with
    | some span => some span
    | none => if test c then (shortest test next (some c) rest).map (c :: ·) else none

/-- A word starts or ends between `before` and the text. -/
def isWordEdge (before : Option Char) (text : List Char) : Bool :=
  before.any isWordChar != text.head?.any isWordChar

/-- What the pattern matches at the head of the text, with `before` as the character before it. -/
def span? : Pattern → Option Char → List Char → Option (List Char)
  | [], _, _ => some []
  | .one test :: parts, _, text =>
    match text with
    | [] => none
    | c :: rest => if test c then (span? parts (some c) rest).map (c :: ·) else none
  | .most test :: parts, before, text => longest test (span? parts) before text
  | .fewest test :: parts, before, text => shortest test (span? parts) before text
  | .wordEdge :: parts, before, text =>
    if isWordEdge before text then span? parts before text else none
  | .notAfter c :: parts, before, text =>
    if before = some c then none else span? parts before text

/-- The shortest run of any characters at the head of the text behind which the text passes the
test: what a group that takes as little as it can takes. -/
def upTo? (closes : List Char → Bool) (text : List Char) : Option (List Char) :=
  shortest (fun _ => true) (fun _ rest => if closes rest then some [] else none) none text

/-- The count of matches in a text whose first `skip` characters belong to the match before. -/
def countFrom (pattern : Pattern) : Nat → Option Char → List Char → Nat
  | _, _, [] => 0
  | skip + 1, _, c :: rest => countFrom pattern skip (some c) rest
  | 0, before, c :: rest =>
    match pattern.span? before (c :: rest) with
    | some span => countFrom pattern (span.length - 1) (some c) rest + 1
    | none => countFrom pattern 0 (some c) rest

/-- The count of matches in a text. -/
def count (pattern : Pattern) (text : List Char) : Nat := countFrom pattern 0 none text

end Pattern

end Storyboard.Text
