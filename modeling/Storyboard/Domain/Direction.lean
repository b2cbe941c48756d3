import Storyboard.Text.Mark

/-!
# Directions of labels

Some scripts are written from right to left. A label with a character of such a
script begins with one, has no character of the other direction, ends with one or
with a digit, marks apart, and mixes no two kinds of digits. The ranges hold for
characters of labels; marks lie in some of them and are told apart first.
-/

namespace Storyboard.Domain

open Storyboard.Text (inRanges isNonspacing)

/-- How a character of a label is written. -/
inductive Direction where
  | toRight
  | toLeft
  | digit
  | arabicDigit
  | mark
  /-- The character goes with those around it. -/
  | neutral
deriving DecidableEq, Repr

/-- Scripts that are written from right to left. -/
def toLeftRanges : List (Nat × Nat) := [
  (0x5D0, 0x64A), (0x66E, 0x6EF), (0x6FA, 0x8C9), (0xFE73, 0xFE73), (0x10800, 0x10D23),
  (0x10E80, 0x10FF6), (0x1E800, 0x1E959)]

/-- Digits of every direction. -/
def digitRanges : List (Nat × Nat) := [(0x30, 0x39), (0x6F0, 0x6F9)]

/-- Digits of scripts that are written from right to left. -/
def arabicDigitRanges : List (Nat × Nat) := [(0x660, 0x669), (0x10D30, 0x10D39)]

/-- Characters that go with those around them. -/
def neutralRanges : List (Nat × Nat) := [
  (0x2D, 0x2D), (0xB7, 0xB7), (0x2B9, 0x2BA), (0x2C6, 0x2CF), (0x2EC, 0x2EC), (0x375, 0x375),
  (0x200C, 0x200D), (0x2E2F, 0x2E2F), (0x30FB, 0x30FB), (0xA67F, 0xA67F), (0xA717, 0xA71F),
  (0xA788, 0xA788)]

/-- The direction of a character of a label. -/
def direction (c : Char) : Direction :=
  if isNonspacing c then .mark
  else if inRanges digitRanges c then .digit
  else if inRanges arabicDigitRanges c then .arabicDigit
  else if inRanges neutralRanges c then .neutral
  else if inRanges toLeftRanges c then .toLeft
  else .toRight

/-- Directions that make a label one that is written from right to left. -/
def Direction.turns (direction : Direction) : Bool :=
  direction = .toLeft || direction = .arabicDigit

/-- The directions fit together in one label. -/
def agree (directions : List Direction) : Bool :=
  let final := directions.reverse.dropWhile (· = .mark)
  !directions.any Direction.turns ||
    (directions.head? = some .toLeft && !directions.contains .toRight &&
      final.head?.any (fun last => last.turns || last = .digit) &&
      !(directions.contains .digit && directions.contains .arabicDigit))

/-- The characters of a label are written in directions that fit together. -/
def isOneWay (label : List Char) : Bool := agree (label.map direction)

end Storyboard.Domain
