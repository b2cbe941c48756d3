/-!
# Bytes of a text

The UTF-8 form of a text, as the list of its bytes. Bytes that are no such form are
mended: the longest head of a form that goes on with a wrong byte is replaced by
the form of one replacement character.
-/

namespace Storyboard.Text

/-- The bytes of a text. -/
def utf8Bytes (text : String) : List UInt8 := text.toList.flatMap String.utf8EncodeChar

/-- The form of the replacement character. -/
def replacementBytes : List UInt8 := utf8Bytes "\uFFFD"

/-- What follows the first byte of a form: how many bytes, and the least and the
greatest that may come first among them. -/
structure Tail where
  count : Nat
  least : UInt8
  greatest : UInt8
deriving DecidableEq, Repr

/-- What follows a first byte, if it is one. -/
def Tail.behind? (byte : UInt8) : Option Tail :=
  if byte < 0x80 then some ⟨0, 0x80, 0xBF⟩
  else if byte < 0xC2 then none
  else if byte < 0xE0 then some ⟨1, 0x80, 0xBF⟩
  else if byte < 0xF0 then
    some ⟨2, if byte = 0xE0 then 0xA0 else 0x80, if byte = 0xED then 0x9F else 0xBF⟩
  else if byte < 0xF5 then
    some ⟨3, if byte = 0xF0 then 0x90 else 0x80, if byte = 0xF4 then 0x8F else 0xBF⟩
  else none

/-- The bytes at the head that belong to a form. -/
def Tail.take (tail : Tail) : List UInt8 → List UInt8
  | [] => []
  | byte :: rest =>
    if 0 < tail.count && tail.least ≤ byte && byte ≤ tail.greatest then
      byte :: Tail.take ⟨tail.count - 1, 0x80, 0xBF⟩ rest
    else []

/-- Bytes with every part that is no form mended. -/
def mend (bytes : List UInt8) : List UInt8 :=
  match bytes with
  | [] => []
  | first :: rest =>
    let found := ((Tail.behind? first).map (·.take rest)).getD []
    let isWhole := (Tail.behind? first).any (·.count = found.length)
    (if isWhole then first :: found else replacementBytes) ++ mend (rest.drop found.length)
termination_by bytes.length
decreasing_by simp only [List.length_drop, List.length_cons]; omega

end Storyboard.Text
