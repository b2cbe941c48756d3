import Storyboard.Text.Units

/-!
# Texts as Json string literals

A literal holds printable ASCII only: the quote, the backslash and the control
characters are escaped, and a character beyond ASCII becomes the escapes of its
one or two units of sixteen bits; a lone half is its own unit. Inside a literal
no quote stands unescaped.
-/

namespace Storyboard.Json

open Storyboard.Text

/-- The escape of a unit of sixteen bits. -/
def unitEscape (unit : Nat) : List Char := '\\' :: 'u' :: hexDigits 4 unit

/-- The units of a character, as escapes. -/
def unitEscapes (c : Char) : List Char :=
  match halfOf? c with
  | some half => unitEscape half
  | none =>
    if c.toNat < firstPaired then unitEscape c.toNat
    else unitEscape (highUnit c.toNat) ++ unitEscape (lowUnit c.toNat)

/-- The letter that stands for a character after a backslash, if there is one. -/
def shortEscape? (c : Char) : Option Char :=
  match c with
  | '"' => some '"'
  | '\\' => some '\\'
  | '\n' => some 'n'
  | '\r' => some 'r'
  | '\t' => some 't'
  | '\x0c' => some 'f'
  | '\x08' => some 'b'
  | _ => none

/-- One character inside a literal. -/
def literalChar (c : Char) : List Char :=
  match shortEscape? c with
  | some letter => ['\\', letter]
  | none => if c.toNat < 0x20 || 0x7E < c.toNat then unitEscapes c else [c]

/-- The characters of a text inside a literal. -/
def literalBody (text : List Char) : List Char := text.flatMap literalChar

/-- A text as a literal. -/
def literalChars (text : List Char) : List Char := '"' :: literalBody text ++ ['"']

/-- A text as a literal. -/
def literal (text : String) : String := String.ofList (literalChars text.toList)

theorem literalBody_append (a b : List Char) :
    literalBody (a ++ b) = literalBody a ++ literalBody b := by
  simp [literalBody]

end Storyboard.Json
