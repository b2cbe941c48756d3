import Storyboard.Proofs.Barriers
import Storyboard.Proofs.Patterns
import Storyboard.Proofs.Trimming
import Storyboard.Review.Basic

/-!
# What the layers of a review ask for

Conditions on a code under which a layer has nothing to report, apart from brackets and
forbidden constructs: a place where a component is returned, a closing tag, a few words, and
enough characters that are not trimmed.
-/

namespace Storyboard

open Text

namespace Review

theorem somewhere_append {test : Option Char → List Char → Bool} {before : Option Char}
    {head tail : List Char} (h : test (Signature.lastOf before head) tail = true) :
    somewhere test before (head ++ tail) = true := by
  induction head generalizing before with
  | nil =>
    cases tail with
    | nil => exact h
    | cons c tail => exact Bool.or_eq_true_iff.mpr (.inl h)
  | cons c head ih => exact Bool.or_eq_true_iff.mpr (.inr (ih h))

theorem Layer.review_ofList (layer : Layer) (code : List Char) :
    layer.review (String.ofList code) = .of (layer.issues code) := by
  rw [Layer.review, String.toList_ofList]

theorem Layer.passed_iff {layer : Layer} {code : String} :
    (layer.review code).passed = true ↔ (layer.review code).issues = [] :=
  Verdict.of_passed_iff _

theorem Layer.safety_issues (code : List Char) :
    (Layer.safety.review (String.ofList code)).issues = forbiddenIssues code := by
  rw [Layer.review_ofList]
  rfl

theorem tagIssues_of_closing {code : List Char} (h : 0 < closeTag.count code) :
    tagIssues code = [] := by
  have hnone : (closeTag.count code == 0) = false := by
    rw [beq_eq_false_iff_ne]
    omega
  simp [tagIssues, hnone]

theorem shapeIssues_of_shape {code : List Char} (hreturn : somewhere returnsName none code = true)
    (hremotion : occurs "Remotion".toList code = true)
    (hlayout : occurs "AbsoluteFill".toList code = true) (hmarkup : code.contains '<' = true)
    (hlong : longestStub < code.length) : shapeIssues code = [] := by
  have hnot : ¬ code.length ≤ longestStub := Nat.not_le_of_lt hlong
  simp only [shapeIssues, hreturn, hremotion, hlayout, hmarkup, hnot, Bool.not_true,
    Bool.false_and, decide_false, Bool.false_eq_true, if_false, List.append_nil]

/-- A text with a character that is kept at its head and one late enough is long enough. -/
theorem lengthIssues_of_kept {code head rest : List Char} {c d : Char}
    (hcode : code = c :: head ++ d :: rest) (hc : isBlank c = false) (hd : isBlank d = false)
    (hlen : leastLength ≤ head.length) : lengthIssues code = [] := by
  have htrimmed : trimChars code = c :: head ++ d :: trimEndWhere isBlank rest := by
    rw [trimChars, trimWhere, hcode, List.cons_append, List.dropWhile_cons_of_neg (by simp [hc]),
      ← List.cons_append, trimEndWhere_keep hd]
  have hnot : ¬ (trimChars code).length < leastLength := by
    rw [htrimmed, List.length_append, List.length_cons]
    omega
  exact if_neg hnot

end Review

end Storyboard
