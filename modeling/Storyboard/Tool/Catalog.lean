import Storyboard.Tool.Basic

/-!
# The tools of the server

Each tool says which arguments it takes, which of them it needs, and what calling
it may do. Arguments are checked before the tool runs; a call with an unknown,
missing or unfit argument is refused.
-/

namespace Storyboard.Tool

open Checking (Checked readFilledText readFlag readPositive)

/-- An argument of a tool. -/
structure Parameter where
  name : String
  /-- A call without it is refused. -/
  needed : Bool
  /-- The argument as the tool gets it, if it is fit. -/
  accept : Json → Option Json

/-- What calling a tool may do. -/
structure Hints where
  readOnly : Bool
  destructive : Bool
  idempotent : Bool
  /-- The tool reaches services outside. -/
  openWorld : Bool
deriving DecidableEq, Repr

/-- A tool of the server. -/
structure Descriptor where
  name : String
  parameters : List Parameter
  hints : Hints
  /-- Runs the tool with fit arguments. -/
  call : Json.Entries → Action Json

/-- A text. -/
def isText : Json → Bool
  | .text _ => true
  | _ => false

/-- A text with at least one character. -/
def filledText (value : Json) : Option Json := (readFilledText .value value).value?.map Json.text

/-- A text or null. -/
def optionalText : Json → Option Json
  | .text value => some (.text value)
  | .null => some .null
  | _ => none

/-- A text, an object, or null. -/
def optionalObject : Json → Option Json
  | .object entries => some (.object entries)
  | value => optionalText value

/-- A text or an object. -/
def textOrObject : Json → Option Json
  | .null => none
  | value => optionalObject value

/-- A text, a list of texts, or null. -/
def optionalTexts : Json → Option Json
  | .list items => if items.all isText then some (.list items) else none
  | value => optionalText value

/-- A known aspect ratio. -/
def knownRatio : Json → Option Json
  | .text ratio => if (Canvas.ofRatio? ratio).isSome then some (.text ratio) else none
  | _ => none

/-- The tool that generates code. -/
def generator : Descriptor where
  name := "codegen_generate"
  parameters := [
    ⟨"job_id", true, filledText⟩,
    ⟨"script_id", true, filledText⟩,
    ⟨"target_duration", true, fun value => (readPositive .value value).value?.map Json.float⟩,
    ⟨"aspect_ratio", false, knownRatio⟩,
    ⟨"image_urls", false, optionalTexts⟩,
    ⟨"audio", false, optionalObject⟩,
    ⟨"previous_code", false, optionalText⟩,
    ⟨"feedback", false, optionalText⟩]
  hints := ⟨false, false, false, true⟩
  call arguments := generate (.ofEntries arguments)

/-- The text of an argument that is one. -/
def textArgument (name : String) (arguments : Json.Entries) : String :=
  match arguments.lookup name with
  | some (.text value) => value
  | _ => ""

/-- The tool that lists versions. -/
def historian : Descriptor where
  name := "codegen_history"
  parameters := [
    ⟨"job_id", true, filledText⟩,
    ⟨"include_code", false, fun value => (readFlag .value value).value?.map Json.bool⟩]
  hints := ⟨true, false, true, false⟩
  call arguments :=
    let withCode := (arguments.lookup "include_code").getD .null
    history ((arguments.lookup "job_id").getD .null) !withCode.isVacant

/-- The tool that keeps scripts. -/
def scriptKeeper : Descriptor where
  name := "codegen_save_script"
  parameters := [⟨"script", true, textOrObject⟩]
  hints := ⟨false, false, true, false⟩
  call arguments := saveScript ((arguments.lookup "script").getD .null)

/-- The tool that reviews code. -/
def reviewer : Descriptor where
  name := "codegen_validate"
  parameters := [⟨"code", true, filledText⟩]
  hints := ⟨true, false, true, false⟩
  call arguments := return validate (textArgument "code" arguments)

/-- All tools, by name. -/
def catalog : List Descriptor := [generator, historian, scriptKeeper, reviewer]

/-- The argument as the tool gets it: nothing when it is not given and not needed. -/
def Parameter.take? (parameter : Parameter) (arguments : Json.Entries) : Option Json.Entries :=
  match arguments.lookup parameter.name with
  | some value => (parameter.accept value).map fun value => [(parameter.name, value)]
  | none => if parameter.needed then none else some []

/-- The fit arguments of a call, if all of them are. -/
def Descriptor.fit? (tool : Descriptor) (arguments : Json.Entries) : Option Json.Entries :=
  if arguments.all fun entry => tool.parameters.any (·.name = entry.1) then
    (tool.parameters.mapM (Parameter.take? · arguments)).map List.flatten
  else none

/-- Calls a tool by name. A call that is refused has no answer. -/
def call (name : String) (arguments : Json.Entries) : Action (Option Json) :=
  match catalog.find? (·.name = name) with
  | none => return none
  | some tool =>
    match tool.fit? arguments with
    | none => return none
    | some arguments => some <$> tool.call arguments

end Storyboard.Tool
