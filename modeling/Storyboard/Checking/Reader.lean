import Storyboard.Checking.Checked
import Storyboard.Checking.Numeral
import Storyboard.Text.Half

/-!
# Checks of single fields

A reader checks one value. Scalars are taken leniently: a number may come as a
flag or as a numeral, a flag as a number or a word; texts, lists and objects are
taken as what they are. A text with a lone half is kept only where nothing has to
be known about it. A field of a record is looked up under its outer name first
and under its inner name otherwise, and an issue names the key that was found.

Where a value comes from matters to one kind of value: a whole number beyond the
doubles is infinite when it was read from Json text, and no double otherwise.
-/

namespace Storyboard.Checking

-- Powers are those of the core library, whatever else is imported.
attribute [local instance (high)] instPowNat Int.instNatPow

/-- A check of one value. -/
abbrev Reader (α : Type) := Origin → Json → Checked α

/-- A text. -/
def readText : Reader String := fun _ value =>
  match value with
  | .text text => .accepted text
  | _ => .reject .notText value

/-- Reads a text whose characters matter. -/
def ofText (read : String → Checked α) (text : String) : Checked α :=
  if Text.hasHalf text then .reject .brokenText (.text text) else read text

/-- A text with at least one character. -/
def readFilledText : Reader String := fun _ value =>
  match value with
  | .text text =>
    ofText (fun text => if text.isEmpty then .reject .emptyText value else .accepted text) text
  | _ => .reject .notText value

/-- The double that a whole number stands for. -/
def doubleOfWhole (origin : Origin) (n : Int) : Checked Float :=
  match Decimal.doubleOfInt n, origin with
  | .ok x, _ => .accepted x
  | .error _, .value => .reject .notNumber (.int n)
  | .error _, .text => .accepted (if n < 0 then -1.0 / 0.0 else 1.0 / 0.0)

/-- A double. -/
def readDouble : Reader Float := fun origin value =>
  match value with
  | .float x => .accepted x
  | .bool flag => .accepted (if flag then 1 else 0)
  | .int n => doubleOfWhole origin n
  | .text text => ofText (fun text =>
      match realNumeral? text with
      | some x => .accepted x
      | none => .reject .badNumeral value) text
  | _ => .reject .notNumber value

/-- A double greater than zero. -/
def readPositive : Reader Float := fun origin value =>
  (readDouble origin value).andThen fun x =>
    if 0 < x then .accepted x else .reject (.notAbove 0) value

/-- A double not less than zero. -/
def readNonNegative : Reader Float := fun origin value =>
  (readDouble origin value).andThen fun x =>
    if 0 ≤ x then .accepted x else .reject (.below 0) value

/-- The whole number that a double is. -/
def wholeOfDouble (x : Float) : Checked Int :=
  match Decimal.truncate x with
  | .error _ => .reject .notFinite (.float x)
  | .ok n =>
    if !Decimal.isWhole x then .reject .hasFraction (.float x)
    else if -wholeLimit < x && x < wholeLimit then .accepted n
    else .reject .tooLarge (.float x)

/-- A whole number. -/
def readWhole : Reader Int := fun _ value =>
  match value with
  | .int n => .accepted n
  | .bool flag => .accepted (if flag then 1 else 0)
  | .float x => wholeOfDouble x
  | .text text => ofText (fun text =>
      match wholeNumeral text with
      | .value n => .accepted n
      | .malformed => .reject .badWholeNumeral value
      | .tooLong => .reject .tooLarge value) text
  | _ => .reject .notWhole value

/-- A whole number not less than `bound`. -/
def readWholeFrom (bound : Nat) : Reader Int := fun origin value =>
  (readWhole origin value).andThen fun n =>
    if bound ≤ n then .accepted n else .reject (.below bound) value

/-- Words for a flag that is not set. -/
def offWords : List String := ["0", "off", "f", "false", "n", "no"]

/-- Words for a flag that is set. -/
def onWords : List String := ["1", "on", "t", "true", "y", "yes"]

/-- The flag that a whole number stands for. A number that takes more than
sixty-four bits is not even looked at. -/
def flagOfWhole (n : Int) (value : Json) : Checked Bool :=
  if n < -2 ^ (63 : Nat) || 2 ^ (63 : Nat) ≤ n then .reject .notFlag value
  else if n = 0 then .accepted false
  else if n = 1 then .accepted true
  else .reject .badFlag value

/-- A flag. -/
def readFlag : Reader Bool := fun _ value =>
  match value with
  | .bool flag => .accepted flag
  | .int n => flagOfWhole n value
  | .float x =>
    match wholeOfDouble x with
    | .accepted n => flagOfWhole n value
    | .rejected _ => .reject .notFlag value
  | .text text => ofText (fun text =>
      let word := String.ofList (text.toList.map Char.toLower)
      if word ∈ offWords then .accepted false
      else if word ∈ onWords then .accepted true
      else .reject .badFlag value) text
  | _ => .reject .notFlag value

/-- A list. -/
def readList (item : Reader α) : Reader (List α) := fun origin value =>
  match value with
  | .list values => Checked.items (item origin) 0 values
  | _ => .reject .notList value

/-- A list with at least one item. -/
abbrev Filled (α : Type) := { items : List α // items ≠ [] }

/-- A list with at least one item. -/
def readFilledList (item : Reader α) : Reader (Filled α) := fun origin value =>
  (readList item origin value).andThen fun items =>
    match items with
    | [] => .reject .emptyList value
    | first :: rest => .accepted ⟨first :: rest, List.cons_ne_nil first rest⟩

/-- A value that may be null. -/
def readNullable (reader : Reader α) : Reader (Option α) := fun origin value =>
  match value with
  | .null => .accepted none
  | _ => (reader origin value).map some

/-- The entries of an object and where it comes from. -/
structure Fields where
  origin : Origin
  entries : Json.Entries

/-- The fields of an object, where a record of this title is expected. -/
def readObject (title : String) (read : Fields → Checked α) : Reader α := fun origin value =>
  match value with
  | .object entries => read ⟨origin, entries⟩
  | _ => .reject (.notObject title) value

/-- The names of a field. -/
structure Name where
  /-- The name that callers use. -/
  outer : String
  /-- The name that this library stores. -/
  inner : String
deriving DecidableEq, Repr

/-- A field with one name. -/
def Name.same (name : String) : Name := ⟨name, name⟩

/-- The entry of a field, under its outer name if that is there. -/
def Name.find? (name : Name) (entries : Json.Entries) : Option (String × Json) :=
  match entries.lookup name.outer with
  | some value => some (name.outer, value)
  | none => (entries.lookup name.inner).map fun value => (name.inner, value)

/-- A field that must be there. -/
def required (name : Name) (reader : Reader α) (fields : Fields) : Checked α :=
  match name.find? fields.entries with
  | some (key, value) => (reader fields.origin value).under (.key key)
  | none => .rejected [⟨[.key name.outer], .missing, .object fields.entries⟩]

/-- A field that has a default. -/
def optional (name : Name) (reader : Reader α) (fallback : α) (fields : Fields) : Checked α :=
  match name.find? fields.entries with
  | some (key, value) => (reader fields.origin value).under (.key key)
  | none => .accepted fallback

end Storyboard.Checking
