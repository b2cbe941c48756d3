import Storyboard.Text.Units
import Storyboard.Text.Utf8

/-!
# Texts that come as bytes

A body may be written in units of one, two or four bytes. Json begins with an
ASCII character, so the zero bytes among the first four tell the width of a unit
and which of its bytes comes first. Lone halves are taken as they are.
-/

namespace Storyboard.Text

/-- Units of more than one byte. -/
structure WideUnits where
  /-- Four bytes make a unit, otherwise two. -/
  isDouble : Bool
  /-- The first byte of a unit weighs most, otherwise the last. -/
  bigEnd : Bool
deriving DecidableEq, Repr

/-- The count of bytes in a unit. -/
def WideUnits.width (units : WideUnits) : Nat := if units.isDouble then 4 else 2

/-- The name of an encoding in messages. -/
def WideUnits.name (units : WideUnits) : String :=
  s!"utf-{8 * units.width}-" ++ if units.bigEnd then "be" else "le"

/-- Bytes that denote no text. -/
structure DecodeFault where
  encoding : WideUnits
  /-- The first of the bytes. -/
  byte : UInt8
  /-- Where the first byte stands. -/
  first : Nat
  /-- Where the last byte stands. -/
  last : Nat
  /-- The bytes end inside of a unit; otherwise they name no character. -/
  isCut : Bool
deriving DecidableEq, Repr

/-- The wording of a fault. -/
def DecodeFault.message (fault : DecodeFault) : String :=
  let place :=
    if fault.first = fault.last then
      s!"byte 0x{String.ofList (hexDigits 2 fault.byte.toNat)} in position {fault.first}"
    else s!"bytes in position {fault.first}-{fault.last}"
  let reason := if fault.isCut then "truncated data" else "code point not in range(0x110000)"
  s!"'{fault.encoding.name}' codec can't decode {place}: {reason}"

/-- The number that the bytes of a unit denote. -/
def WideUnits.value (units : WideUnits) (bytes : List UInt8) : Nat :=
  (if units.bigEnd then bytes else bytes.reverse).foldl
    (fun value byte => 256 * value + byte.toNat) 0

/-- Codes from here on name no character. -/
def codeLimit : Nat := 0x110000

/-- The codes of the bytes from `position` on. -/
def WideUnits.codes (units : WideUnits) (position : Nat) (bytes : List UInt8) :
    Except DecodeFault (List Nat) :=
  match bytes with
  | [] => .ok []
  | byte :: rest =>
    let more := rest.drop (units.width - 1)
    let unit := byte :: rest.take (units.width - 1)
    let last := position + unit.length - 1
    if unit.length < units.width then .error ⟨units, byte, position, last, true⟩
    else if codeLimit ≤ units.value unit then .error ⟨units, byte, position, last, false⟩
    else (units.codes (position + units.width) more).map (units.value unit :: ·)
termination_by bytes.length
decreasing_by simp only [List.length_drop, List.length_cons]; omega

/-- The text of bytes in wide units. -/
def WideUnits.decode (units : WideUnits) (bytes : List UInt8) : Except DecodeFault String :=
  (units.codes 0 bytes).map fun codes =>
    String.ofList (if units.isDouble then codes.map loneChar else joinUnits codes)

/-- The wide units that the first bytes of a body tell, if they tell any. -/
def wideUnits? (bytes : List UInt8) : Option WideUnits :=
  match bytes with
  | [a, b] => if a = 0 then some ⟨false, true⟩ else if b = 0 then some ⟨false, false⟩ else none
  | a :: b :: c :: d :: _ =>
    if a = 0 then some ⟨b = 0, true⟩
    else if b = 0 then some ⟨c = 0 && d = 0, false⟩
    else none
  | _ => none

/-- The text of a Json body. A byte order mark at the head is dropped. -/
def bodyText (body : String) : Except DecodeFault String :=
  match body.toList with
  | '\uFEFF' :: rest => .ok (String.ofList rest)
  | _ =>
    let bytes := utf8Bytes body
    match wideUnits? bytes with
    | some units => units.decode bytes
    | none => .ok body

end Storyboard.Text
