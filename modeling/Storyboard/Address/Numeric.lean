import Storyboard.Text.Hex
import Storyboard.Text.Pieces

/-!
# Numeric hosts

A host may be written as four decimal numbers with points between them, or, in
brackets, as eight hexadecimal groups with colons between them. One run of zero
groups may be left out, and the last two groups may be written as four numbers.
-/

namespace Storyboard.Address

open Storyboard.Text (hexValue? pieces)

/-- The text is a decimal number below 256 without leading zeros. -/
def isOctet (text : List Char) : Bool :=
  text.all Char.isDigit && 0 < text.length && text.length ≤ 3 &&
    (text = ['0'] || text.head? ≠ some '0') &&
    text.foldl (fun value c => 10 * value + (c.toNat - 48)) 0 < 256

/-- The text is four decimal numbers with points between them. -/
def isFourNumbers (text : List Char) : Bool :=
  let parts := pieces (· = '.') text
  parts.length = 4 && parts.all isOctet

/-- One more character of a text that may look like four numbers. State `2 * i` waits
for the first digit of a number, state `2 * i + 1` has seen a digit of it. Any
character may stand between two numbers, a digit too. -/
def numbersStep (states : List Nat) (c : Char) : List Nat :=
  (List.range 8).filter fun next =>
    if next % 2 = 1 then c.isDigit && (states.contains next || states.contains (next - 1))
    else 0 < next && states.contains (next - 1)

/-- The text looks like four numbers. -/
def looksLikeNumbers (text : List Char) : Bool := (text.foldl numbersStep [0]).contains 7

/-- The text is a hexadecimal group. -/
def isGroup (text : List Char) : Bool :=
  0 < text.length && text.length ≤ 4 && text.all fun c => (hexValue? c).isSome

/-- How many groups an address has. -/
def groupCount : Nat := 8

/-- Groups on one side of a gap: only the piece at the end of the text, which is its
head here, may be empty, and then it is the only one. -/
def isSide (pieces : List (List Char)) : Bool :=
  match pieces with
  | [] => false
  | first :: more => if first.isEmpty then more.isEmpty else pieces.all isGroup

/-- How many groups the pieces of a side are. -/
def sideCount (pieces : List (List Char)) : Nat := (pieces.filter (!·.isEmpty)).length

/-- The pieces with two groups in place of four numbers at the end. -/
def expandNumbers? (pieces : List (List Char)) : Option (List (List Char)) :=
  match pieces.getLast? with
  | some last =>
    if !last.contains '.' then some pieces
    else if isFourNumbers last then some (pieces.dropLast ++ [['0'], ['0']])
    else none
  | none => none

/-- The pieces are the groups of an address. An empty piece that is not at an end is
a gap, which stands for at least one group. -/
def areGroups (pieces : List (List Char)) : Bool :=
  let before := pieces.tail.takeWhile (!·.isEmpty)
  let after := pieces.drop (before.length + 2)
  if pieces.length ≤ before.length + 1 || after.isEmpty then
    pieces.length = groupCount && pieces.all isGroup
  else
    let first := pieces.take (before.length + 1)
    isSide first && isSide after.reverse && sideCount first + sideCount after < groupCount

/-- The text is an address in hexadecimal groups. -/
def isGrouped (text : List Char) : Bool :=
  let parts := pieces (· = ':') text
  3 ≤ parts.length && (expandNumbers? parts).any areGroups

/-- The text is an address in hexadecimal groups, perhaps with a zone behind a percent
sign. -/
def isBracketed (text : List Char) : Bool :=
  match pieces (· = '%') text with
  | [address] => isGrouped address
  | [address, zone] => !zone.isEmpty && isGrouped address
  | _ => false

end Storyboard.Address
