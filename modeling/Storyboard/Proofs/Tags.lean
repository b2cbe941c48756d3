import Storyboard.Proofs.Brackets
import Storyboard.Proofs.Patterns

/-!
# What is reported on tags

An opening tag goes from its `<` to the next `>`, however the search shares out what is between
them: the longest name may have to give back the points it ends in before a word ends there, but
what it gives back belongs to the tag as well. Each tag begins with the one `<` that it has, so the
count of matches is the count of places.
-/

namespace Storyboard.Review

open Text

section Shapes

variable {before : Option Char} {c d : Char} {code body name blanks span rest : List Char}

/-- `c` is an ASCII capital. -/
def IsCapital (c : Char) : Prop := 'A' ≤ c ∧ c ≤ 'Z'

/-- A name, what stands behind it, and the `>` that comes before any other bracket of its kind. -/
structure OpensTag (c : Char) (body : List Char) : Prop where
  capital : IsCapital c
  inside : ∀ d ∈ body, d ≠ '<' ∧ d ≠ '>'
  unslashed : (c :: body).getLast? ≠ some '/'

structure ClosesTag (c : Char) (name blanks : List Char) : Prop where
  capital : IsCapital c
  word : ∀ d ∈ name, isWordChar d = true ∨ d = '.'
  blank : ∀ d ∈ blanks, isBlank d = true

theorem isCapital_iff : isCapital c = true ↔ IsCapital c := by
  simp only [isCapital, IsCapital, Bool.and_eq_true, decide_eq_true_eq]

theorem isInsideTag_iff : isInsideTag d = true ↔ d ≠ '<' ∧ d ≠ '>' := by
  simp only [isInsideTag, Bool.and_eq_true, bne_iff_ne]

theorem isNameChar_iff : isNameChar d = true ↔ isWordChar d = true ∨ d = '.' := by
  simp only [isNameChar, Bool.or_eq_true, beq_iff_eq]

theorem inside_of_isNameChar (h : isNameChar d = true) : d ≠ '<' ∧ d ≠ '>' := by
  constructor
  · rintro rfl
    exact absurd h (by decide)
  · rintro rfl
    exact absurd h (by decide)

theorem isWordChar_of_capital (h : IsCapital c) : isWordChar c = true := by
  obtain ⟨hlow, hhigh⟩ := h
  have hlow : 65 ≤ c.toNat := hlow
  have hhigh : c.toNat ≤ 90 := hhigh
  have hupper : c.isUpper = true := decide_eq_true ⟨hlow, hhigh⟩
  have hletter : c.isAlpha = true := Bool.or_eq_true_iff.mpr (.inl hupper)
  apply isWordChar_of_isAlphanum
  · omega
  · simp [Char.isAlphanum, hletter]

theorem capital_ne (h : IsCapital c) : c ≠ '<' := by
  rintro rfl
  exact absurd h (by simp [IsCapital])

/-- However the parts share it out, an opening tag is a name and what stands inside. -/
theorem fits_openTag_iff : openTag.Fits before span rest ↔
    ∃ c body, span = '<' :: c :: (body ++ ['>']) ∧ OpensTag c body := by
  constructor
  · intro h
    cases h with | one hless h =>
    cases h with | @one _ _ _ c _ _ hcapital h =>
    cases h with | @most _ _ _ name _ _ hname h =>
    cases h with | wordEdge _ h =>
    cases h with | @fewest _ _ _ inside _ _ hinside h =>
    cases h with | notAfter hslash h =>
    cases h with | one hgreater h =>
    cases h with | nil =>
    obtain rfl := beq_iff_eq.mp hless
    obtain rfl := beq_iff_eq.mp hgreater
    refine ⟨c, name ++ inside, by rw [List.append_assoc], isCapital_iff.mp hcapital, ?_, ?_⟩
    · intro d hd
      rcases List.mem_append.mp hd with hd | hd
      · exact inside_of_isNameChar (hname d hd)
      · exact isInsideTag_iff.mp (hinside d hd)
    · intro hlast
      apply hslash
      rw [← hlast, List.getLast?_cons, List.getLast?_append]
      cases inside.getLast? <;> cases name.getLast? <;> rfl
  · rintro ⟨c, body, rfl, h⟩
    -- The word that begins the name ends somewhere, so let the name stop there.
    have hsplit : body = body.takeWhile isWordChar ++ body.dropWhile isWordChar :=
      List.takeWhile_append_dropWhile.symm
    have hword : ∀ d ∈ body.takeWhile isWordChar, isWordChar d = true :=
      List.all_eq_true.mp List.all_takeWhile
    have hedge : Pattern.isWordEdge ((body.takeWhile isWordChar).getLast?.or (some c))
        (body.dropWhile isWordChar ++ ['>'] ++ rest) = true := by
      have hbefore : ((body.takeWhile isWordChar).getLast?.or (some c)).any isWordChar = true := by
        cases hlast : (body.takeWhile isWordChar).getLast? with
        | none => exact isWordChar_of_capital h.capital
        | some d => exact hword d (List.mem_of_getLast? hlast)
      have hafter : (body.dropWhile isWordChar ++ ['>'] ++ rest).head?.any isWordChar = false := by
        cases hdrop : body.dropWhile isWordChar with
        | nil => exact (by decide : isWordChar '>' = false)
        | cons d tail =>
          have hne : body.dropWhile isWordChar ≠ [] := by simp [hdrop]
          have hhead := List.head_dropWhile_not isWordChar hne
          simpa [hdrop] using hhead
      rw [Pattern.isWordEdge, hbefore, hafter]
      rfl
    have hcapital := isCapital_iff.mpr h.capital
    have hname : ∀ d ∈ body.takeWhile isWordChar, isNameChar d = true :=
      fun d hd => isNameChar_iff.mpr (.inl (hword d hd))
    have hinside : ∀ d ∈ body.dropWhile isWordChar, isInsideTag d = true := by
      intro d hd
      apply isInsideTag_iff.mpr
      exact h.inside d ((List.dropWhile_sublist _).mem hd)
    have hslash : (body.dropWhile isWordChar).getLast?.or
        ((body.takeWhile isWordChar).getLast?.or (some c)) ≠ some '/' := by
      intro hlast
      apply h.unslashed
      rw [List.getLast?_cons, hsplit, List.getLast?_append, ← hlast]
      cases (body.dropWhile isWordChar).getLast? <;>
        cases (body.takeWhile isWordChar).getLast? <;> rfl
    rw [hsplit, List.append_assoc]
    exact .one rfl (.one hcapital (.most hname (.wordEdge hedge
      (.fewest hinside (.notAfter hslash (.one rfl .nil))))))

theorem fits_closeTag_iff : closeTag.Fits before span rest ↔
    ∃ c name blanks, span = '<' :: '/' :: c :: (name ++ (blanks ++ ['>'])) ∧
      ClosesTag c name blanks := by
  constructor
  · intro h
    cases h with | one hless h =>
    cases h with | one hslash h =>
    cases h with | @one _ _ _ c _ _ hcapital h =>
    cases h with | @most _ _ _ name _ _ hname h =>
    cases h with | @most _ _ _ blanks _ _ hblank h =>
    cases h with | one hgreater h =>
    cases h with | nil =>
    obtain rfl := beq_iff_eq.mp hless
    obtain rfl := beq_iff_eq.mp hslash
    obtain rfl := beq_iff_eq.mp hgreater
    exact ⟨c, name, blanks, rfl, isCapital_iff.mp hcapital,
      fun d hd => isNameChar_iff.mp (hname d hd), hblank⟩
  · rintro ⟨c, name, blanks, rfl, h⟩
    exact .one rfl (.one rfl (.one (isCapital_iff.mpr h.capital)
      (.most (fun d hd => isNameChar_iff.mpr (h.word d hd)) (.most h.blank (.one rfl .nil)))))

theorem openTag_markedBy : openTag.MarkedBy '<' := by
  refine ⟨fun _ _ => rfl, fun hfits => ?_⟩
  obtain ⟨c, body, rfl, h⟩ := fits_openTag_iff.mp hfits
  refine ⟨_, rfl, ?_⟩
  simp only [List.mem_cons, List.mem_append, List.not_mem_nil, or_false, not_or]
  refine ⟨(capital_ne h.capital).symm, fun hmem => ?_, by decide⟩
  exact (h.inside '<' hmem).1 rfl

theorem closeTag_markedBy : closeTag.MarkedBy '<' := by
  refine ⟨fun _ _ => rfl, fun hfits => ?_⟩
  obtain ⟨c, name, blanks, rfl, h⟩ := fits_closeTag_iff.mp hfits
  refine ⟨_, rfl, ?_⟩
  simp only [List.mem_cons, List.mem_append, List.not_mem_nil, or_false, not_or]
  refine ⟨by decide, (capital_ne h.capital).symm, fun hmem => ?_, fun hmem => ?_, by decide⟩
  · exact (inside_of_isNameChar (isNameChar_iff.mpr (h.word '<' hmem))).1 rfl
  · exact absurd (h.blank '<' hmem) (by decide)

end Shapes

section Places

variable {code : List Char}

/-- The places of an opening tag: a `<` with an ASCII capital behind it, whose next angle bracket
is a `>` without a slash before it. -/
def openTagPlaces (code : List Char) : Set Nat :=
  {place | ∃ c body rest, code.drop place = '<' :: c :: (body ++ '>' :: rest) ∧ OpensTag c body}

/-- The places of a closing tag: `</` with an ASCII capital behind it, word characters and points,
then blanks, then a `>`. -/
def closeTagPlaces (code : List Char) : Set Nat :=
  {place | ∃ c name blanks rest,
    code.drop place = '<' :: '/' :: c :: (name ++ (blanks ++ '>' :: rest)) ∧
    ClosesTag c name blanks}

theorem placesWhere_openTag (code : List Char) :
    Pattern.placesWhere openTag.Begins code = openTagPlaces code := by
  ext place
  refine Pattern.isSome_span?_iff.trans ⟨?_, ?_⟩
  · rintro ⟨span, rest, htext, hfits⟩
    obtain ⟨c, body, rfl, h⟩ := fits_openTag_iff.mp hfits
    exact ⟨c, body, rest, by simpa using htext, h⟩
  · rintro ⟨c, body, rest, htext, h⟩
    refine ⟨'<' :: c :: (body ++ ['>']), rest, by simpa using htext, ?_⟩
    exact fits_openTag_iff.mpr ⟨c, body, rfl, h⟩

theorem placesWhere_closeTag (code : List Char) :
    Pattern.placesWhere closeTag.Begins code = closeTagPlaces code := by
  ext place
  refine Pattern.isSome_span?_iff.trans ⟨?_, ?_⟩
  · rintro ⟨span, rest, htext, hfits⟩
    obtain ⟨c, name, blanks, rfl, h⟩ := fits_closeTag_iff.mp hfits
    exact ⟨c, name, blanks, rest, by simpa using htext, h⟩
  · rintro ⟨c, name, blanks, rest, htext, h⟩
    refine ⟨'<' :: '/' :: c :: (name ++ (blanks ++ ['>'])), rest, by simpa using htext, ?_⟩
    exact fits_closeTag_iff.mpr ⟨c, name, blanks, rfl, h⟩

theorem count_openTag (code : List Char) : openTag.count code = (openTagPlaces code).ncard := by
  rw [openTag_markedBy.count_eq, placesWhere_openTag]

example : openTag.count "<A.b.><C/><D".toList = 1 := by decide

theorem count_closeTag (code : List Char) : closeTag.count code = (closeTagPlaces code).ncard := by
  rw [closeTag_markedBy.count_eq, placesWhere_closeTag]

theorem finite_openTagPlaces (code : List Char) : (openTagPlaces code).Finite := by
  rw [← placesWhere_openTag]
  exact Pattern.finite_placesWhere openTag_markedBy.not_begins_nil code

theorem finite_closeTagPlaces (code : List Char) : (closeTagPlaces code).Finite := by
  rw [← placesWhere_closeTag]
  exact Pattern.finite_placesWhere closeTag_markedBy.not_begins_nil code

end Places

section Reports

variable {issue : String}

/-- The issue is on unclosed tags. -/
def isOnTags (issue : String) : Bool :=
  "Possible unclosed JSX tags".toList.isPrefixOf issue.toList

theorem isOnTags_tagReport (opened : Nat) : isOnTags (tagReport opened) = true := by
  have hreport : tagReport opened = "Possible unclosed JSX tags (" ++ toString opened ++
      " opening tags, 0 closing tags)" := rfl
  have hhead : "Possible unclosed JSX tags".toList <+: "Possible unclosed JSX tags (".toList :=
    List.isPrefixOf_iff_prefix.mp (by decide)
  unfold isOnTags
  rw [hreport, List.isPrefixOf_iff_prefix, String.toList_append, String.toList_append,
    List.append_assoc]
  exact hhead.trans (List.prefix_append _ _)

theorem head_of_isOnTags (h : isOnTags issue = true) : issue.toList.head? = some 'P' := by
  obtain ⟨rest, htext⟩ := List.isPrefixOf_iff_prefix.mp h
  rw [← htext]
  rfl

theorem filter_isOnTags_of_head {issues : List String} {c : Char} (hc : c ≠ 'P')
    (h : ∀ issue ∈ issues, issue.toList.head? = some c) : issues.filter isOnTags = [] := by
  rw [List.filter_eq_nil_iff]
  intro issue hmem htags
  have hhead := head_of_isOnTags htags
  rw [h issue hmem] at hhead
  exact hc (Option.some.inj hhead)

theorem tagIssues_eq (code : List Char) : tagIssues code =
    if 3 < (openTagPlaces code).ncard ∧ (closeTagPlaces code).ncard = 0 then
      [tagReport (openTagPlaces code).ncard] else [] := by
  unfold tagIssues
  rw [count_openTag, count_closeTag]
  refine if_congr ?_ rfl rfl
  rw [Bool.and_eq_true, decide_eq_true_eq, beq_iff_eq]
  rfl

end Reports

/-- Unclosed tags are reported if there are more than three opening tags and no closing one, and
only then. The report comes once and says how many opening tags there are. -/
theorem tags_reported_iff (code : String) :
    (openTagPlaces code.toList).Finite ∧ (closeTagPlaces code.toList).Finite ∧
    (Layer.writing.review code).issues.filter isOnTags =
      if 3 < (openTagPlaces code.toList).ncard ∧ (closeTagPlaces code.toList).ncard = 0 then
        [tagReport (openTagPlaces code.toList).ncard] else [] := by
  refine ⟨finite_openTagPlaces _, finite_closeTagPlaces _, ?_⟩
  -- The other issues begin with other letters.
  have hbrackets : (bracketIssues code.toList).filter isOnTags = [] :=
    filter_isOnTags_of_head (by decide) fun _ => head_bracketIssues
  have hlength : (lengthIssues code.toList).filter isOnTags = [] :=
    filter_isOnTags_of_head (by decide) fun _ => head_lengthIssues
  have htags : (tagIssues code.toList).filter isOnTags = tagIssues code.toList := by
    rw [List.filter_eq_self]
    intro issue hmem
    rw [tagIssues_eq] at hmem
    split at hmem
    · rw [List.mem_singleton.mp hmem]
      exact isOnTags_tagReport _
    · cases hmem
  rw [writing_issues, List.filter_append, List.filter_append, hbrackets, htags, hlength,
    List.append_nil, List.nil_append, tagIssues_eq]

end Storyboard.Review
