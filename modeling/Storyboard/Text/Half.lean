import Storyboard.Text.Hex

/-!
# Lone halves

In units of sixteen bits a character beyond the first plane is a pair of halves.
A text can name a half without its partner. Such a half is kept as one character
of the block from U+DD800 to U+DDFFF, in which no character is assigned: it counts
as one character, belongs to no class, and is written back as the half it stands
for. No encoding has a form for it. The code points of this block stand for halves
only: a text that holds one of them in its own right is not told from a text with
the half, and is outside of what the library describes.
-/

namespace Storyboard.Text

/-- The units that are halves. -/
def isHalf (unit : Nat) : Bool := 0xD800 ≤ unit && unit < 0xE000

/-- How far the block that keeps halves lies behind the halves: it is U+DD800 to U+DDFFF. -/
def halfShift : Nat := 0xD0000

/-- The character that keeps a half. -/
def halfChar (unit : Nat) : Char := Char.ofNat (unit + halfShift)

/-- The half that a character keeps. -/
def halfOf? (c : Char) : Option Nat :=
  if isHalf (c.toNat - halfShift) then some (c.toNat - halfShift) else none

/-- Characters that keep a half. -/
def keepsHalf (c : Char) : Bool := (halfOf? c).isSome

/-- The text has a lone half. -/
def hasHalf (text : String) : Bool := text.toList.any keepsHalf

/-- A character as an escape of two, four or eight hexadecimal digits. -/
def codeEscape (c : Char) : List Char :=
  let code := (halfOf? c).getD c.toNat
  if code ≤ 0xFF then '\\' :: 'x' :: hexDigits 2 code
  else if code ≤ 0xFFFF then '\\' :: 'u' :: hexDigits 4 code
  else '\\' :: 'U' :: hexDigits 8 code

theorem halfOf?_halfChar {unit : Nat} (h : isHalf unit = true) :
    halfOf? (halfChar unit) = some unit := by
  simp only [isHalf, Bool.and_eq_true, decide_eq_true_eq] at h
  have valid : (unit + halfShift).isValidChar := by
    right
    constructor <;> simp only [halfShift] <;> omega
  have code : (halfChar unit).toNat = unit + halfShift := by
    unfold halfChar Char.ofNat
    rw [dif_pos valid]
    rfl
  simp [halfOf?, code, isHalf, h]

end Storyboard.Text
