import Storyboard.Json.Basic

/-!
# What a check can complain about

An issue names the place in the checked value, the cause, and the value found
there. `Cause.code` and `Cause.message` are the words of a cause.
-/

namespace Storyboard.Checking

/-- One step from a value into a part of it. -/
inductive Step where
  | key (name : String)
  | index (position : Nat)
deriving DecidableEq, Repr

/-- How a step is written in a message. -/
def Step.label : Step → String
  | .key name => name
  | .index position => toString position

/-- Where a checked value comes from. -/
inductive Origin where
  /-- From a caller, as a value. -/
  | value
  /-- From Json text. -/
  | text
deriving DecidableEq, Repr

/-- Why a value is rejected. -/
inductive Cause where
  | missing
  | notText
  /-- The text has a lone half, so that no encoding holds it. -/
  | brokenText
  /-- The text has no character. -/
  | emptyText
  | notNumber
  | badNumeral
  /-- The number is not greater than the bound. -/
  | notAbove (bound : Nat)
  /-- The number is less than the bound. -/
  | below (bound : Nat)
  | notWhole
  | badWholeNumeral
  /-- The whole number is too large to be read. -/
  | tooLarge
  | hasFraction
  | notFinite
  | notFlag
  | badFlag
  | notMoment
  /-- The value is read as a date with a time, and is none for this reason. -/
  | badMoment (reason : String)
  /-- The value is read as a date, and is none for this reason. -/
  | badDate (reason : String)
  | notList
  /-- The list has no item. -/
  | emptyList
  /-- The value is no object, where a record of this title was expected. -/
  | notObject (title : String)
  /-- The text is no Json for this reason. -/
  | badJson (reason : String)
  /-- A rule of the record itself is broken. -/
  | rule (text : String)
  /-- A field of a record that does not change was assigned. -/
  | frozen
deriving DecidableEq, Repr

/-- The short name of a cause. -/
def Cause.code : Cause → String
  | .missing => "missing"
  | .notText => "string_type"
  | .brokenText => "string_unicode"
  | .emptyText => "string_too_short"
  | .notNumber => "float_type"
  | .badNumeral => "float_parsing"
  | .notAbove _ => "greater_than"
  | .below _ => "greater_than_equal"
  | .notWhole => "int_type"
  | .badWholeNumeral => "int_parsing"
  | .tooLarge => "int_parsing_size"
  | .hasFraction => "int_from_float"
  | .notFinite => "finite_number"
  | .notFlag => "bool_type"
  | .badFlag => "bool_parsing"
  | .notMoment => "datetime_type"
  | .badMoment _ => "datetime_parsing"
  | .badDate _ => "datetime_from_date_parsing"
  | .notList => "list_type"
  | .emptyList => "too_short"
  | .notObject _ => "model_type"
  | .badJson _ => "json_invalid"
  | .rule _ => "value_error"
  | .frozen => "frozen_instance"

/-- The wording of a cause. -/
def Cause.message (origin : Origin) : Cause → String
  | .missing => "Field required"
  | .notText => "Input should be a valid string"
  | .brokenText =>
    "Input should be a valid string, unable to parse raw data as a unicode string"
  | .emptyText => "String should have at least 1 character"
  | .notNumber => "Input should be a valid number"
  | .badNumeral => "Input should be a valid number, unable to parse string as a number"
  | .notAbove bound => s!"Input should be greater than {bound}"
  | .below bound => s!"Input should be greater than or equal to {bound}"
  | .notWhole => "Input should be a valid integer"
  | .badWholeNumeral => "Input should be a valid integer, unable to parse string as an integer"
  | .tooLarge => "Unable to parse input string as an integer, exceeded maximum size"
  | .hasFraction => "Input should be a valid integer, got a number with a fractional part"
  | .notFinite => "Input should be a finite number"
  | .notFlag => "Input should be a valid boolean"
  | .badFlag => "Input should be a valid boolean, unable to interpret input"
  | .notMoment => "Input should be a valid datetime"
  | .badMoment reason => s!"Input should be a valid datetime, {reason}"
  | .badDate reason => s!"Input should be a valid datetime or date, {reason}"
  | .notList => "Input should be a valid list"
  | .emptyList => "List should have at least 1 item after validation, not 0"
  | .notObject title =>
    match origin with
    | .value => s!"Input should be a valid dictionary or instance of {title}"
    | .text => "Input should be an object"
  | .badJson reason => s!"Invalid JSON: {reason}"
  | .rule text => s!"Value error, {text}"
  | .frozen => "Instance is frozen"

/-- A complaint about one part of a value. -/
structure Issue where
  path : List Step
  cause : Cause
  value : Json

/-- The issue seen from one step further out. -/
def Issue.under (step : Step) (issue : Issue) : Issue := { issue with path := step :: issue.path }

end Storyboard.Checking
