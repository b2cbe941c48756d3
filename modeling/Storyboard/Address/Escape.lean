import Storyboard.Text.Hex
import Storyboard.Text.Utf8

/-!
# Percent escapes

Each part of an address holds some ASCII characters as they are. Every other
character is written as its bytes, each a percent sign with two digits; so is read
back whatever a part escapes. The percent sign itself stands in every part, so an
escape is never escaped again.
-/

namespace Storyboard.Address

open Storyboard.Text

/-- The upper-case hexadecimal digit of a number below sixteen. -/
def upperDigit (d : Nat) : Char := (hexDigit d).toUpper

/-- The escape of a byte. -/
def byteEscape (byte : UInt8) : List Char :=
  ['%', upperDigit (byte.toNat / 16), upperDigit (byte.toNat % 16)]

/-- Characters that stand in every part. -/
def isUnreserved (c : Char) : Bool :=
  c.isAlphanum || c == '-' || c == '.' || c == '_' || c == '~'

/-- Escapes all characters that a part does not hold. -/
def escape (holds : Char → Bool) (text : List Char) : List Char :=
  text.flatMap fun c =>
    if isUnreserved c || holds c then [c] else (String.utf8EncodeChar c).flatMap byteEscape

/-- The printable ASCII characters, less some of them. -/
def printableBut (others : List Char) (c : Char) : Bool :=
  0x20 ≤ c.toNat && c.toNat < 0x7F && !others.contains c

/-- What a fragment escapes of the printable ASCII characters. -/
def fragmentEscaped : List Char := [' ', '"', '<', '>', '\x60']

/-- What a query escapes of them. -/
def queryEscaped : List Char := [' ', '"', '#', '<', '>']

/-- What a path escapes of them. -/
def pathEscaped : List Char := queryEscaped ++ ['?', '\x60', '\x7b', '\x7d']

/-- What a login escapes of them. -/
def loginEscaped : List Char :=
  pathEscaped ++ ['/', ';', '=', '@', '[', '\\', ']', '^', '|']

/-- What a host holds beside the characters of every part. -/
def hostHeld : List Char := "!$&'()*+,;=\"\x60\x7b\x7d%|\\".toList

/-- Reads escapes back as bytes. A percent sign without two digits is kept. -/
def unescape : List Char → List UInt8
  | '%' :: a :: b :: rest =>
    match hexValue? a, hexValue? b with
    | some high, some low => UInt8.ofNat (16 * high + low) :: unescape rest
    | _, _ => utf8Bytes "%" ++ unescape (a :: b :: rest)
  | c :: rest => String.utf8EncodeChar c ++ unescape rest
  | [] => []

theorem escape_append (holds : Char → Bool) (a b : List Char) :
    escape holds (a ++ b) = escape holds a ++ escape holds b := by
  simp [escape]

/-- Text that a part holds is left alone. -/
theorem escape_eq_self {holds : Char → Bool} {text : List Char}
    (h : ∀ c ∈ text, holds c = true) : escape holds text = text := by
  induction text with
  | nil => rfl
  | cons c rest ih =>
    have head : holds c = true := h c List.mem_cons_self
    have tail := ih fun d hd => h d (List.mem_cons_of_mem _ hd)
    simp only [escape, List.flatMap_cons, head, Bool.or_true, ↓reduceIte] at tail ⊢
    simpa using tail

end Storyboard.Address
