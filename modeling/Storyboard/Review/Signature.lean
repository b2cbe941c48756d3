import Storyboard.Text.Blank
import Storyboard.Text.WordChar

/-!
# Signatures

A signature is a construct that a review looks for in code text: pieces that
follow each other, with a condition on the character before the first piece and,
for some, one on the character after the last. It is looked for at every place.
-/

namespace Storyboard.Review

open Storyboard.Text

/-- One piece of a signature. -/
inductive Piece where
  /-- These characters. -/
  | word (chars : List Char)
  /-- Blank characters, possibly none. -/
  | blanks
  /-- At least one blank character. -/
  | gap
deriving DecidableEq, Repr

/-- What follows the pieces at the head of the text, if they stand there. -/
def afterPieces? : List Piece → List Char → Option (List Char)
  | [], text => some text
  | .word chars :: pieces, text =>
    if chars.isPrefixOf text then afterPieces? pieces (text.drop chars.length) else none
  | .blanks :: pieces, text => afterPieces? pieces (text.dropWhile isBlank)
  | .gap :: pieces, text =>
    if text.head?.any isBlank then afterPieces? pieces (text.dropWhile isBlank) else none

/-- Which characters may not stand before a signature. -/
inductive Margin where
  /-- No word character, so that a whole word starts. -/
  | word
  /-- Nor a point or a dollar sign, so that the word is no member of another. -/
  | member
deriving DecidableEq, Repr

/-- `c` may not stand before a signature with this margin. -/
def Margin.excludes (margin : Margin) (c : Char) : Bool :=
  match margin with
  | .word => isWordChar c
  | .member => isWordChar c || c == '.' || c == '$'

/-- A construct to look for. -/
structure Signature where
  label : String
  margin : Margin
  pieces : List Piece
  /-- No word character follows. -/
  closed : Bool
deriving DecidableEq, Repr

/-- The signature stands at the head of `text`, with `before` as the character
before it. -/
def Signature.standsAt (signature : Signature) (before : Option Char) (text : List Char) : Bool :=
  !before.any signature.margin.excludes &&
    (afterPieces? signature.pieces text).any fun rest =>
      !signature.closed || !rest.head?.any isWordChar

/-- `test` holds at some place of the text, with the character before that place. -/
def somewhere (test : Option Char → List Char → Bool) : Option Char → List Char → Bool
  | before, [] => test before []
  | before, c :: rest => test before (c :: rest) || somewhere test (some c) rest

/-- The signature stands somewhere in the code. -/
def Signature.isIn (signature : Signature) (code : List Char) : Bool :=
  somewhere signature.standsAt none code

end Storyboard.Review
