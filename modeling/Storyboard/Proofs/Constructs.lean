import Mathlib.Data.Set.Insert
import Storyboard.Proofs.Layers

/-!
# Constructs beside other text

A label is reported exactly if a construct of that label is written in the code: its pieces one
after the other, with no word that goes on at either end. A separator is a character that goes on
with no word and names no member. What a separator sets apart from other text is therefore reported
as if it stood alone, and a separator that no construct has inside of it lets none straddle it.
-/

namespace Storyboard.Review

open Text

section Pieces

/-- The texts that are written by pieces one after the other. -/
inductive Spells : List Piece → List Char → Prop where
  | nil : Spells [] []
  | word {pieces : List Piece} {text : List Char} (chars : List Char) (h : Spells pieces text) :
      Spells (.word chars :: pieces) (chars ++ text)
  | blanks {pieces : List Piece} {run text : List Char} (hrun : ∀ c ∈ run, isBlank c = true)
      (h : Spells pieces text) : Spells (.blanks :: pieces) (run ++ text)
  | gap {pieces : List Piece} {run text : List Char} (hne : run ≠ [])
      (hrun : ∀ c ∈ run, isBlank c = true) (h : Spells pieces text) :
      Spells (.gap :: pieces) (run ++ text)

/-- The pieces begin with a character that is no blank. -/
def startsSolid : List Piece → Bool
  | .word (c :: _) :: _ => !isBlank c
  | _ => false

/-- What follows a run of blanks begins with a character that is no blank. -/
def blanksEnd : List Piece → Bool
  | [] => true
  | .word _ :: pieces => blanksEnd pieces
  | _ :: pieces => startsSolid pieces && blanksEnd pieces

variable {pieces : List Piece} {text rest : List Char}

theorem Spells.dropWhile_isBlank (h : Spells pieces text) (hsolid : startsSolid pieces = true)
    (rest : List Char) : (text ++ rest).dropWhile isBlank = text ++ rest := by
  cases h with
  | @word _ tail chars h =>
    cases chars with
    | nil => cases hsolid
    | cons c chars =>
      have hc : isBlank c = false := by simpa [startsSolid] using hsolid
      rw [List.cons_append, List.cons_append, List.dropWhile_cons_of_neg (by simp [hc])]
  | nil | blanks | gap => cases hsolid

theorem Spells.afterPieces? (h : Spells pieces text) (hends : blanksEnd pieces = true)
    (rest : List Char) : afterPieces? pieces (text ++ rest) = some rest := by
  induction h with
  | nil => rfl
  | word chars h ih =>
    rw [List.append_assoc, Review.afterPieces?, List.drop_left]
    exact (if_pos (List.isPrefixOf_iff_prefix.mpr (List.prefix_append _ _))).trans (ih hends)
  | blanks hrun h ih =>
    obtain ⟨hsolid, hends⟩ := Bool.and_eq_true_iff.mp hends
    rw [List.append_assoc, Review.afterPieces?, List.dropWhile_append_of_pos hrun,
      h.dropWhile_isBlank hsolid, ih hends]
  | @gap _ run tail hne hrun h ih =>
    obtain ⟨hsolid, hends⟩ := Bool.and_eq_true_iff.mp hends
    have hhead : (run ++ (tail ++ rest)).head?.any isBlank = true := by
      cases run with
      | nil => contradiction
      | cons c run => exact hrun c List.mem_cons_self
    rw [List.append_assoc, Review.afterPieces?, if_pos hhead, List.dropWhile_append_of_pos hrun,
      h.dropWhile_isBlank hsolid, ih hends]

theorem exists_spells (h : afterPieces? pieces text = some rest) :
    ∃ spelled, text = spelled ++ rest ∧ Spells pieces spelled := by
  have hrun (text : List Char) : ∀ c ∈ text.takeWhile isBlank, isBlank c = true :=
    List.all_eq_true.mp List.all_takeWhile
  have hcut (text spelled : List Char) (htail : text.dropWhile isBlank = spelled ++ rest) :
      text = text.takeWhile isBlank ++ spelled ++ rest := by
    rw [List.append_assoc, ← htail, List.takeWhile_append_dropWhile]
  induction pieces generalizing text with
  | nil =>
    obtain rfl := Option.some.inj h
    exact ⟨[], rfl, .nil⟩
  | cons piece pieces ih =>
    cases piece with
    | word chars =>
      rw [afterPieces?] at h
      split at h
      · next hp =>
        obtain ⟨tail, rfl⟩ := List.isPrefixOf_iff_prefix.mp hp
        rw [List.drop_left] at h
        obtain ⟨spelled, rfl, hspells⟩ := ih h
        exact ⟨chars ++ spelled, (List.append_assoc _ _ _).symm, .word chars hspells⟩
      · cases h
    | blanks =>
      obtain ⟨spelled, htail, hspells⟩ := ih h
      exact ⟨_, hcut text spelled htail, .blanks (hrun text) hspells⟩
    | gap =>
      rw [afterPieces?] at h
      split at h
      · next hblank =>
        obtain ⟨spelled, htail, hspells⟩ := ih h
        refine ⟨_, hcut text spelled htail, .gap ?_ (hrun text) hspells⟩
        cases text with
        | nil => simp at hblank
        | cons c text =>
          have hc : isBlank c = true := hblank
          rw [List.takeWhile_cons_of_pos hc]
          exact List.cons_ne_nil _ _
      · cases h

end Pieces

section Places

variable {test : Option Char → List Char → Bool}

/-- Somewhere in a text is at the head of a part that ends it. -/
theorem somewhere_iff {before : Option Char} {text : List Char} :
    somewhere test before text = true ↔
      ∃ head tail, text = head ++ tail ∧ test (Signature.lastOf before head) tail = true := by
  constructor
  · intro h
    induction text generalizing before with
    | nil => exact ⟨[], [], rfl, h⟩
    | cons c text ih =>
      rcases Bool.or_eq_true_iff.mp h with hhere | hlater
      · exact ⟨[], c :: text, rfl, hhere⟩
      · obtain ⟨head, tail, rfl, htest⟩ := ih hlater
        exact ⟨c :: head, tail, rfl, htest⟩
  · rintro ⟨head, tail, rfl, htest⟩
    exact somewhere_append htest

namespace Signature

variable {signature : Signature} {before spelled after code : List Char} {q : Char}

theorem lastOf_eq (before : Option Char) (text : List Char) :
    lastOf before text = text.getLast?.or before := by
  induction text generalizing before with
  | nil => rfl
  | cons c text ih =>
    rw [lastOf, ih, List.getLast?_cons]
    cases text.getLast? <;> rfl

/-- The construct is written between two parts of a code, as a whole. -/
structure Written (signature : Signature) (before spelled after : List Char) : Prop where
  spells : Spells signature.pieces spelled
  opens : ∀ c ∈ before.getLast?, signature.margin.excludes c = false
  closes : signature.closed = true → ∀ c ∈ after.head?, isWordChar c = false

/-- A construct is in a code exactly if it is written there. -/
theorem isIn_iff (hends : blanksEnd signature.pieces = true) : signature.isIn code = true ↔
    ∃ before spelled after, code = before ++ spelled ++ after ∧
      signature.Written before spelled after := by
  rw [isIn, somewhere_iff]
  constructor
  · rintro ⟨before, tail, rfl, hstands⟩
    rw [standsAt, Bool.and_eq_true, lastOf_eq, Option.or_none] at hstands
    obtain ⟨hopens, hpieces⟩ := hstands
    obtain ⟨after, hafter, hcloses⟩ := (Option.any_eq_true _ _).mp hpieces
    obtain ⟨spelled, rfl, hspells⟩ := exists_spells hafter
    refine ⟨before, spelled, after, (List.append_assoc _ _ _).symm, hspells, ?_, ?_⟩
    · simpa [Option.any_eq_false] using hopens
    · intro hclosed
      simpa [hclosed, Option.any_eq_false] using hcloses
  · rintro ⟨before, spelled, after, rfl, hspells, hopens, hcloses⟩
    refine ⟨before, spelled ++ after, List.append_assoc _ _ _, ?_⟩
    have hbefore : before.getLast?.any signature.margin.excludes = false :=
      (Option.any_eq_false _ _).mpr hopens
    have hafter (hclosed : signature.closed = true) : after.head?.any isWordChar = false :=
      (Option.any_eq_false _ _).mpr (hcloses hclosed)
    rw [standsAt, hspells.afterPieces? hends, lastOf_eq, Option.or_none, hbefore, Option.any_some]
    cases hclosed : signature.closed with
    | false => rfl
    | true => rw [hafter hclosed]; rfl

/-- What follows a separator does not hide a construct before it. -/
theorem Written.before_separator (h : signature.Written before spelled after)
    (hq : isWordChar q = false) (more : List Char) :
    signature.Written before spelled (after ++ q :: more) := by
  refine ⟨h.spells, h.opens, fun hclosed => ?_⟩
  cases after with
  | nil => simpa using hq
  | cons c after => exact h.closes hclosed

/-- What stands before a separator does not hide a construct after it. -/
theorem Written.after_separator (h : signature.Written before spelled after)
    (hq : signature.margin.excludes q = false) (first : List Char) :
    signature.Written (first ++ q :: before) spelled after := by
  refine ⟨h.spells, ?_, h.closes⟩
  rw [List.getLast?_append, List.getLast?_cons]
  cases hlast : before.getLast? with
  | none => simpa using hq
  | some c => simpa using h.opens c hlast

end Signature

end Places

section Separators

/-- A character that goes on with no word and names no member. -/
structure IsSeparator (c : Char) : Prop where
  noWordChar : isWordChar c = false
  noPoint : c ≠ '.'
  noDollar : c ≠ '$'

variable {c : Char}

theorem IsSeparator.notExcluded (h : IsSeparator c) (margin : Margin) :
    margin.excludes c = false := by
  cases margin with
  | word => exact h.noWordChar
  | member => simp [Margin.excludes, h.noWordChar, h.noPoint, h.noDollar]

theorem blanksEnd_pieces : ∀ signature ∈ denylist, blanksEnd signature.pieces = true := by
  decide

/-- Of which characters the words of a construct consist. -/
def Piece.isPlain : Piece → Bool
  | .word chars => chars.all fun c => isWordChar c || c == '.' || c == '('
  | _ => true

theorem isPlain_pieces :
    ∀ signature ∈ denylist, ∀ piece ∈ signature.pieces, piece.isPlain = true := by
  decide

/-- A separator that is no blank and opens no call is a barrier to every forbidden construct. -/
theorem IsSeparator.barredBy (h : IsSeparator c) (hblank : isBlank c = false) (hcall : c ≠ '(')
    {signature : Signature} (hs : signature ∈ denylist) : signature.BarredBy c := by
  refine ⟨(barredBy_quote signature hs).opens, h.notExcluded _, fun piece hpiece => ?_⟩
  have hplain := isPlain_pieces signature hs piece hpiece
  cases piece with
  | word chars =>
    rw [Piece.lacks, Bool.not_eq_true', List.contains_eq_mem, decide_eq_false_iff_not]
    intro hc
    have hone := List.all_eq_true.mp hplain c hc
    simp [h.noWordChar, h.noPoint, hcall] at hone
  | blanks | gap => simp [Piece.lacks, hblank]

end Separators

section Labels

/-- The labels that the safety layer reports. -/
def reportedLabels (code : String) : Set String :=
  {label | s!"Forbidden pattern: {label}" ∈ (Layer.safety.review code).issues}

variable {code first second : String} {label : String} {c : Char}

theorem issues_eq_map (code : String) : (Layer.safety.review code).issues =
    (forbiddenLabels code.toList).map fun label => s!"Forbidden pattern: {label}" := rfl

theorem mem_reportedLabels_iff_mem :
    label ∈ reportedLabels code ↔ label ∈ forbiddenLabels code.toList := by
  have hinj : Function.Injective fun label : String => s!"Forbidden pattern: {label}" := by
    intro one other h
    exact (String.append_right_inj _).mp h
  exact List.mem_map_of_injective hinj

theorem mem_reportedLabels : label ∈ reportedLabels code ↔
    ∃ signature ∈ denylist, signature.isIn code.toList = true ∧ signature.label = label := by
  rw [mem_reportedLabels_iff_mem]
  simp only [forbiddenLabels, List.mem_map, List.mem_filter, and_assoc]

/-- A label is reported exactly if a construct of this label is written somewhere. -/
theorem mem_reportedLabels_iff_written : label ∈ reportedLabels code ↔
    ∃ signature ∈ denylist, signature.label = label ∧
      ∃ before spelled after, code.toList = before ++ spelled ++ after ∧
        signature.Written before spelled after := by
  rw [mem_reportedLabels]
  refine exists_congr fun signature => and_congr_right fun hs => ?_
  rw [Signature.isIn_iff (blanksEnd_pieces signature hs), and_comm]

theorem toList_set_apart (first second : String) (c : Char) :
    (first ++ String.singleton c ++ second).toList = first.toList ++ c :: second.toList := by
  simp

theorem reportedLabels_union_subset (h : IsSeparator c) (first second : String) :
    reportedLabels first ∪ reportedLabels second ⊆
      reportedLabels (first ++ String.singleton c ++ second) := by
  rintro label (hlabel | hlabel) <;> rw [mem_reportedLabels_iff_written] at hlabel ⊢ <;>
    rw [toList_set_apart]
  · obtain ⟨signature, hs, hname, before, spelled, after, hcode, hwritten⟩ := hlabel
    refine ⟨signature, hs, hname, before, spelled, after ++ c :: second.toList, ?_,
      hwritten.before_separator h.noWordChar _⟩
    rw [hcode, List.append_assoc]
  · obtain ⟨signature, hs, hname, before, spelled, after, hcode, hwritten⟩ := hlabel
    refine ⟨signature, hs, hname, first.toList ++ c :: before, spelled, after, ?_,
      hwritten.after_separator (h.notExcluded _) _⟩
    rw [hcode, List.append_assoc, List.append_assoc, List.append_assoc, List.cons_append]

theorem reportedLabels_append_subset (h : IsSeparator c) (hblank : isBlank c = false)
    (hcall : c ≠ '(') (first second : String) :
    reportedLabels (first ++ String.singleton c ++ second) ⊆
      reportedLabels first ∪ reportedLabels second := by
  intro label hlabel
  obtain ⟨signature, hs, hin, hname⟩ := mem_reportedLabels.mp hlabel
  rw [toList_set_apart, Signature.isIn, (h.barredBy hblank hcall hs).somewhere_barred,
    Bool.or_eq_true] at hin
  rcases hin with hin | hin
  · exact .inl (mem_reportedLabels.mpr ⟨signature, hs, hin, hname⟩)
  · exact .inr (mem_reportedLabels.mpr ⟨signature, hs, hin, hname⟩)

theorem forbiddenLabels_sublist (code : List Char) :
    (forbiddenLabels code).Sublist (denylist.map Signature.label) :=
  List.filter_sublist.map _

theorem nodup_labels : (denylist.map Signature.label).Nodup := by
  decide

theorem reportedLabels_eq_empty_iff :
    (Layer.safety.review code).passed = true ↔ reportedLabels code = ∅ := by
  rw [Layer.passed_iff, issues_eq_map, List.map_eq_nil_iff, Set.eq_empty_iff_forall_notMem,
    List.eq_nil_iff_forall_not_mem]
  exact forall_congr' fun label => not_congr mem_reportedLabels_iff_mem.symm

/-- A label is reported exactly if a construct of that label is written in the code. What a
separator sets apart from other text is reported as if it stood alone, and if the separator is no
blank and opens no call, nothing else is. The issues of a code are its labels in the order of the
denylist, each once, and it passes if there is none. -/
theorem denylist_reads_both_sides :
    (∀ (first second : String) (c : Char), IsSeparator c →
      reportedLabels first ∪ reportedLabels second ⊆
          reportedLabels (first ++ String.singleton c ++ second) ∧
        (isBlank c = false → c ≠ '(' →
          reportedLabels (first ++ String.singleton c ++ second) =
            reportedLabels first ∪ reportedLabels second)) ∧
    ∀ code : String,
      (∀ label, label ∈ reportedLabels code ↔ ∃ signature ∈ denylist, signature.label = label ∧
        ∃ before spelled after, code.toList = before ++ spelled ++ after ∧
          signature.Written before spelled after) ∧
      (∃ labels : List String, labels.Sublist (denylist.map Signature.label) ∧ labels.Nodup ∧
        (∀ label, label ∈ labels ↔ label ∈ reportedLabels code) ∧
        (Layer.safety.review code).issues =
          labels.map fun label => s!"Forbidden pattern: {label}") ∧
      ((Layer.safety.review code).passed = true ↔ reportedLabels code = ∅) := by
  refine ⟨fun first second c hc => ?_,
    fun code => ⟨fun _ => mem_reportedLabels_iff_written, ?_, reportedLabels_eq_empty_iff⟩⟩
  · have hkept := reportedLabels_union_subset hc first second
    refine ⟨hkept, fun hblank hcall => Set.Subset.antisymm ?_ hkept⟩
    exact reportedLabels_append_subset hc hblank hcall first second
  · have hsub := forbiddenLabels_sublist code.toList
    exact ⟨forbiddenLabels code.toList, hsub, nodup_labels.sublist hsub,
      fun _ => mem_reportedLabels_iff_mem.symm, issues_eq_map code⟩

/-- A call and a member on either side of a semicolon. -/
theorem semicolon_sets_apart :
    IsSeparator ';' ∧ isBlank ';' = false ∧ ';' ≠ '(' ∧
      reportedLabels ("eval (1)" ++ String.singleton ';' ++ "fs.x") = {"eval()", "fs."} := by
  have hc : IsSeparator ';' := ⟨by decide, by decide, by decide⟩
  have hfirst : forbiddenLabels "eval (1)".toList = ["eval()"] := by decide
  have hsecond : forbiddenLabels "fs.x".toList = ["fs."] := by decide
  refine ⟨hc, by decide, by decide, ?_⟩
  rw [(denylist_reads_both_sides.1 _ _ ';' hc).2 (by decide) (by decide)]
  ext label
  rw [Set.mem_union, mem_reportedLabels_iff_mem, mem_reportedLabels_iff_mem, hfirst, hsecond]
  simp

end Labels

end Storyboard.Review
