import Storyboard.Checking.Checked
import Storyboard.Json.Display

/-!
# Reports on rejected values

A report lists the issues of a record, with the values that caused them. Shown
values of more than `longestShown` bytes are cut in the middle, at the ends of
characters.
-/

namespace Storyboard.Checking

/-- The issues of a rejected record. -/
structure Report where
  title : String
  origin : Origin
  issues : List Issue

/-- Shown values of more bytes are cut. -/
def longestShown : Nat := 50

/-- So many bytes of a cut value are shown at its head. -/
def headBytes : Nat := 25

/-- So many bytes of a cut value are shown at its tail. -/
def tailBytes : Nat := 24

/-- The longest head of the text that takes no more than `limit` bytes. -/
def headWithin (limit : Nat) : List Char → List Char
  | [] => []
  | c :: rest => if c.utf8Size ≤ limit then c :: headWithin (limit - c.utf8Size) rest else []

/-- A shown value, cut when it is long. -/
def shorten (text : String) : String :=
  if text.utf8ByteSize ≤ longestShown then text
  else
    String.ofList (headWithin headBytes text.toList) ++ "..." ++
      String.ofList (headWithin tailBytes text.toList.reverse).reverse

/-- The page that explains a cause. -/
def Cause.page (cause : Cause) : String :=
  "https:" ++ "//" ++ String.intercalate "/" ["errors.pydantic.dev", "2.14", "v", cause.code]

/-- An issue as lines of a report. -/
def Issue.lines (origin : Origin) (issue : Issue) : List String :=
  let place := String.intercalate "." (issue.path.map Step.label)
  let shown := shorten issue.value.display
  (if issue.path.isEmpty then [] else [place]) ++
  [s!"  {issue.cause.message origin} [type={issue.cause.code}, input_value={shown}, " ++
      s!"input_type={issue.value.kindName}]",
    s!"    For further information visit {issue.cause.page}"]

/-- The text of a report. -/
def Report.message (report : Report) : String :=
  let count := report.issues.length
  let noun := if count = 1 then "validation error" else "validation errors"
  String.intercalate "\n"
    (s!"{count} {noun} for {report.title}" :: report.issues.flatMap (Issue.lines report.origin))

/-- The accepted value, or the report. -/
def Checked.orReport (title : String) (origin : Origin) : Checked α → Except Report α
  | accepted value => .ok value
  | rejected issues => .error ⟨title, origin, issues⟩

theorem headWithin_isPrefix (limit : Nat) (text : List Char) : headWithin limit text <+: text := by
  induction text generalizing limit with
  | nil => simp [headWithin]
  | cons c rest ih =>
    unfold headWithin
    split
    · simpa using ih _
    · simp

end Storyboard.Checking
