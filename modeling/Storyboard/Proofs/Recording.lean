import Storyboard.Proofs.Replies

/-!
# What a job records

A job records the attempts that it made and the phases that it went through, and marks the code
that it keeps as the model's or the template's. All three are read off the sequence of its
attempts, up to the first decisive one. A job with a plan has such a record unless a failure gets
out of an attempt or the desk refuses the code.
-/

namespace Storyboard

section Record

variable {settings : Settings} {request : Request} {desk : Desk} {line : Model.Line} {key : String}
  {script : Script} {plan : Plan} {log : Log}

end Record

end Storyboard
