import Storyboard.Json.Reader

/-!
# Arguments that come as text

A caller may send a list or an object as its Json text. Such a text is read when
it denotes a value of the shape that is asked for; every other argument stays as
it is.
-/

namespace Storyboard.Json

/-- A value has a shape. -/
def hasShape (shape : Shape) (value : Json) : Bool :=
  match shape, value with
  | .list, .list _ => true
  | .object, .object _ => true
  | _, _ => false

/-- The argument in the shape that is asked for, as far as it can be brought into
it. Only a number with too many digits and a nesting for which there is no room make
this fail. -/
def coerce (room : Nat) (shape : Shape) (argument : Json) : Except ReadFault Json :=
  match argument with
  | .text source =>
    match read room source with
    | .ok value => .ok (if hasShape shape value then value else argument)
    | .error (.problem _) => .ok argument
    | .error fault => .error fault
  | _ => .ok argument

theorem coerce_of_not_text (room : Nat) (shape : Shape) {argument : Json}
    (h : ∀ source, argument ≠ .text source) : coerce room shape argument = .ok argument := by
  cases argument <;> simp_all [coerce]

end Storyboard.Json
