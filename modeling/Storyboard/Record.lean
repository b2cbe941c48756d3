import Storyboard.Failure.Basic
import Storyboard.Keyed

/-!
# Records with fields that can be assigned

A checked record is held by its fields. Some kinds of record never change; the
others take any value for a field that they have, without another check. Names that
begin with an underscore are no fields, and assigning them changes none, with three
exceptions: one stands for all fields at once, and two for what a record is.
-/

namespace Storyboard

/-- A checked record. -/
structure Record where
  title : String
  /-- The record never changes. -/
  frozen : Bool
  fields : Json.Entries
  /-- Names of values that follow from the fields. -/
  derived : List String

namespace Record

/-- Names of values that follow from the fields of every record. -/
def alwaysDerived : List String := ["model_fields_set", "model_extra"]

/-- The name of all fields at once. -/
def allFields : String := "__dict__"

/-- The name of the kind of a record. -/
def kindField : String := "__class__"

/-- The name of the set of fields that were given. -/
def givenFields : String := "__fields_set__"

/-- The entries of an object that are fields of the record. -/
def keepFields (record : Record) (entries : Json.Entries) : Json.Entries :=
  entries.filter fun entry => (record.fields.lookup entry.1).isSome

/-- Assigns a name that begins with an underscore. -/
def assignHidden (record : Record) (name : String) (value : Json) : Except Failure Record :=
  if name = allFields then
    match value with
    | .object entries => .ok { record with fields := record.keepFields entries }
    | _ => .error (.fieldsKind value.kindName)
  else if name = kindField then .error (.classKind value.kindName)
  else if name = givenFields then .error (.derivedField record.title name)
  else .ok record

/-- Assigns a field. -/
def assignField (record : Record) (name : String) (value : Json) : Except Failure Record :=
  if record.frozen then
    .error (.rejected ⟨record.title, .value, [⟨[.key name], .frozen, value⟩]⟩)
  else if name ∈ alwaysDerived ++ record.derived then .error (.derivedField record.title name)
  else if (record.fields.lookup name).isSome then
    .ok { record with fields := Keyed.put name value record.fields }
  else .error (.unknownField record.title name)

/-- Assigns a value to a name. -/
def assign (record : Record) (name : String) (value : Json) : Except Failure Record :=
  if name.startsWith "_" then record.assignHidden name value else record.assignField name value

end Record

end Storyboard
