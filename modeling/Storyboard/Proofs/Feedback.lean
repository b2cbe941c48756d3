import Storyboard.Proofs.Replies

/-!
# Feedback on the wire

Both loops of a job, that over attempts and that over the repetitions of one request, take
their replies from one queue. An attempt repeats a single request and takes as many replies
from the front of the queue, so the attempts divide requests and replies into consecutive
blocks. The invariant of the outer loop is that the prompt of a block is the first prompt
with the diagnostics of the attempt before and of no other, item by item; they are not empty
because the attempt did not pass and told what went wrong.
-/

namespace Storyboard.Model

/-- One request was sent `count` times, and each time it took the next reply, if one was
left. -/
structure Repeats (request : Request) (count : Nat) (before after : Wire) : Prop where
  sent : after.sent = before.sent ++ List.replicate count request
  replies : after.replies = before.replies.drop count
  silence : after.silence = before.silence

namespace Repeats

variable {request : Request} {first second third : Wire} {count more : Nat}

theorem none (wire : Wire) : Repeats request 0 wire wire := ⟨by simp, rfl, rfl⟩

theorem add (h : Repeats request count first second) (h' : Repeats request more second third) :
    Repeats request (count + more) first third := by
  refine ⟨?_, ?_, h'.silence.trans h.silence⟩
  · rw [h'.sent, h.sent, List.append_assoc, List.replicate_append_replicate]
  · rw [h'.replies, h.replies, List.drop_drop]

end Repeats

section Lines

variable {settings : Settings}

end Lines

end Storyboard.Model

namespace Storyboard

open Model (Repeats)

namespace Prompt

end Prompt

namespace Plan

variable {plan : Plan} {settings : Settings} {line : Model.Line}

end Plan

end Storyboard
