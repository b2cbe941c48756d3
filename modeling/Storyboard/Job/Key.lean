import Storyboard.Decimal.Places
import Storyboard.Failure.Basic

/-!
# Keys of the store

The store looks things up by text. A number is looked up by its text as well, a
flag by one or zero, and nothing is kept under null.
-/

namespace Storyboard

-- Powers are those of the core library, whatever else is imported.
attribute [local instance (high)] instPowNat Int.instNatPow

/-- The text that a value is looked up by. -/
def Json.key (value : Json) : Except Failure (Option String) :=
  match value with
  | .null => .ok none
  | .bool flag => .ok (some (if flag then "1" else "0"))
  | .int n =>
    if -2 ^ (63 : Nat) ≤ n && n < 2 ^ (63 : Nat) then .ok (some (Decimal.wholeText n))
    else .error .keyTooLarge
  | .float x => .ok (if x.isNaN then none else some (Decimal.keyText x))
  | .text written =>
    match Text.encodeFault? .utf8 written with
    | some fault => .error (.encoding fault)
    | none => .ok (some written)
  | .list _ | .object _ => .error (.keyKind value.kindName)

end Storyboard
