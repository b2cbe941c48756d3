import Storyboard.Job.Request

/-!
# Sections added to a prompt

A revision adds the code to change and the change. An attempt that follows a
failed one adds what was wrong with that one. Both extend a prompt at its end.
-/

namespace Storyboard.Prompt

/-- The prompt with the code to change and the change. -/
def withRevision (prompt : String) (revision : Revision) : String :=
  prompt ++ "\n\n## ITERATION: MODIFY PREVIOUS VERSION\n" ++
    s!"The creator wants these changes: \"{revision.feedback}\"\n\n" ++
    "Here is the previous version of the video code. Modify it to apply the " ++
    "requested changes. Keep everything else the same.\n\n" ++
    s!"```\n{revision.previousCode}\n```\n\n" ++
    "Output the FULL modified code (not a diff). Apply ONLY the requested changes."

/-- The prompt with what was wrong with the attempt before. -/
def withFixes (prompt : String) (diagnostics : List String) : String :=
  prompt ++ "\n\n## IMPORTANT: Fix These Issues From Previous Attempt\n" ++
    "Your previous code had these validation errors:\n" ++
    String.intercalate "\n" (diagnostics.map fun diagnostic => s!"- {diagnostic}") ++
    "\n\nPlease fix ALL of these issues and output corrected code."

end Storyboard.Prompt
