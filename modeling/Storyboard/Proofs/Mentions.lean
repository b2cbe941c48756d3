import Storyboard.Failure.Notice

/-!
# Words in a text that is put together

A category goes by words in a message. None of these words has a comma, a point, a slash, an equals
sign or a line end in it, so in a text that is put together with these it stands in one of the
parts. No word has a blank behind a digit either, which tells a count from what it counts.
-/

namespace Storyboard

open Text

variable {word text left right : List Char} {c : Char}

-- Written out in characters: the kernel takes long to read a text.
/-- The words that a category goes by. -/
def ruleWords : List (List Char) := [
  ['4', '0', '1'], ['4', '0', '3'], ['4', '2', '9'], ['q', 'u', 'o', 't', 'a'],
  ['r', 'e', 's', 'o', 'u', 'r', 'c', 'e', '_', 'e', 'x', 'h', 'a', 'u', 's', 't', 'e', 'd'],
  ['4', '0', '0'],
  ['i', 'n', 'v', 'a', 'l', 'i', 'd', ' ', 'c', 'o', 'd', 'e', 'g', 'e', 'n', ' ',
    'p', 'r', 'o', 'v', 'i', 'd', 'e', 'r'],
  ['t', 'i', 'm', 'e', 'o', 'u', 't'], ['t', 'i', 'm', 'e', 'd', ' ', 'o', 'u', 't'],
  ['s', 'q', 'l', 'i', 't', 'e'], ['d', 'a', 't', 'a', 'b', 'a', 's', 'e']]

theorem flatMap_messageRules :
    (messageRules.flatMap fun rule => rule.1.map String.toList) = ruleWords := by decide +kernel

/-- Characters that no such word has. -/
def separators : List Char := ['=', ',', '.', '/', '\n']

def decimalDigits : List Char := ['0', '1', '2', '3', '4', '5', '6', '7', '8', '9']

/-- The word occurs in the text, whose case does not matter. -/
def Says (word text : List Char) : Prop := word <:+: lowerChars text

theorem contains_lower_iff {text word : String} :
    Text.contains (lower text) word = true ↔ Says word.toList text.toList := by
  rw [Text.contains, occurs_iff, lower, String.toList_ofList]
  rfl

theorem ruleWord_separate : ∀ word ∈ ruleWords, ∀ c ∈ separators, c ∉ word := by
  simp [ruleWords, separators]

theorem ruleWord_ne_nil : ∀ word ∈ ruleWords, word ≠ [] := by simp [ruleWords]

-- What is decided is a test of lists: a quantifier over characters goes through all of them.
theorem ruleWord_digit_blank :
    ∀ word ∈ ruleWords, ∀ d ∈ decimalDigits, occurs [d, ' '] word = false := by
  have hall : (ruleWords.all fun word => decimalDigits.all fun d =>
      !occurs [d, ' '] word) = true := by decide
  simpa only [List.all_eq_true, Bool.not_eq_true'] using hall

theorem lowerChar_separator : ∀ c ∈ separators, lowerChar c = [c] := by
  have hall : (separators.all fun c => lowerChar c == [c]) = true := by decide
  simpa only [List.all_eq_true, beq_iff_eq] using hall

theorem lowerChar_digit : ∀ d ∈ decimalDigits, lowerChar d = [d] := by
  have hall : (decimalDigits.all fun d => lowerChar d == [d]) = true := by decide
  simpa only [List.all_eq_true, beq_iff_eq] using hall

theorem mem_decimalDigits (h : c.isDigit = true) : c ∈ decimalDigits := by
  have hdigits : ∀ code < 58, 48 ≤ code → Char.ofNat code ∈ decimalDigits := by decide
  simp only [Char.isDigit, Bool.and_eq_true, decide_eq_true_eq] at h
  rw [← Char.ofNat_toNat c]
  exact hdigits c.toNat (Nat.lt_succ_of_le h.2) h.1

section Parts

theorem not_says_nil (hw : word ∈ ruleWords) : ¬ Says word [] := by
  intro h
  exact ruleWord_ne_nil word hw (List.infix_nil.mp h)

/-- A word does not reach across a character that it does not have. -/
theorem infix_append_cons_iff (h : c ∉ word) :
    word <:+: left ++ c :: right ↔ word <:+: left ∨ word <:+: right := by
  constructor
  · intro hinfix
    rcases List.infix_append_iff.mp hinfix with hleft | hright | ⟨head, tail, rfl, hhead, htail⟩
    · exact .inl hleft
    · rcases List.infix_cons_iff.mp hright with hprefix | hright
      · cases word with
        | nil => exact .inl (List.nil_infix)
        | cons d word =>
          obtain ⟨rfl, _⟩ := List.cons_prefix_cons.mp hprefix
          exact absurd List.mem_cons_self h
      · exact .inr hright
    · cases tail with
      | nil =>
        rw [List.append_nil]
        exact .inl hhead.isInfix
      | cons d tail =>
        obtain ⟨rfl, _⟩ := List.cons_prefix_cons.mp htail
        exact absurd (by simp) h
  · rintro (hleft | hright)
    · exact hleft.trans (List.prefix_append _ _).isInfix
    · exact hright.trans ((List.suffix_cons c right).trans (List.suffix_append left _)).isInfix

theorem says_separated (hw : word ∈ ruleWords) (hc : c ∈ separators) :
    Says word (left ++ c :: right) ↔ Says word left ∨ Says word right := by
  have hlower : lowerChars (c :: right) = c :: lowerChars right := by
    rw [lowerChars, List.flatMap_cons, lowerChar_separator c hc]
    rfl
  unfold Says
  rw [lowerChars_append, hlower, infix_append_cons_iff (ruleWord_separate word hw c hc)]

theorem says_intercalate (hw : word ∈ ruleWords) {separator : String}
    (hs : separator.toList = [c]) (hc : c ∈ separators) (parts : List String) :
    Says word (separator.intercalate parts).toList ↔ ∃ part ∈ parts, Says word part.toList := by
  induction parts with
  | nil =>
    rw [String.intercalate_nil]
    simpa using not_says_nil hw
  | cons part rest ih =>
    cases rest with
    | nil => simp [String.intercalate_singleton]
    | cons next rest =>
      rw [String.intercalate_cons_cons, String.toList_append, String.toList_append, hs,
        List.append_assoc, List.singleton_append, says_separated hw hc, ih]
      simp

theorem mem_toString (count : Nat) : ∀ d ∈ (toString count).toList, d ∈ decimalDigits := by
  intro d hd
  have hlist : (toString count).toList = Nat.toDigits 10 count := Nat.toList_repr
  rw [hlist] at hd
  exact mem_decimalDigits (Nat.isDigit_of_mem_toDigits (by decide) (by decide) hd)

/-- A word does not reach from a count into what is counted. -/
theorem says_counted (hw : word ∈ ruleWords) (count : Nat) (rest : List Char) :
    Says word ((toString count).toList ++ ' ' :: rest) ↔
      Says word (toString count).toList ∨ Says word (' ' :: rest) := by
  have hblank : lowerChars (' ' :: rest) = ' ' :: lowerChars rest := rfl
  unfold Says
  rw [lowerChars_append, List.infix_append_iff]
  constructor
  · rintro (hleft | hright | ⟨head, tail, rfl, hhead, htail⟩)
    · exact .inl hleft
    · exact .inr hright
    rcases List.eq_nil_or_concat head with rfl | ⟨init, d, rfl⟩
    · exact .inr htail.isInfix
    cases tail with
    | nil =>
      rw [List.append_nil]
      exact .inl hhead.isInfix
    | cons c tail =>
      -- The word has the last digit of the count and the blank next to each other.
      rw [hblank] at htail
      obtain ⟨rfl, _⟩ := List.cons_prefix_cons.mp htail
      have hd : d ∈ decimalDigits := by
        obtain ⟨digit, hdigit, hlower⟩ := List.mem_flatMap.mp (hhead.subset (by simp : d ∈ _))
        have hmem := mem_toString count digit hdigit
        rw [lowerChar_digit digit hmem, List.mem_singleton] at hlower
        exact hlower ▸ hmem
      have hnot := ruleWord_digit_blank _ hw d hd
      have hseam : [d, ' '] <:+: init.concat d ++ ' ' :: tail := ⟨init, tail, by simp⟩
      rw [(occurs_iff _ _).mpr hseam] at hnot
      cases hnot
  · rintro (hleft | hright)
    · exact .inl hleft
    · exact .inr (.inl hright)

end Parts

section Mute

/-- No word that a category goes by occurs in the text. -/
def isMute (text : List Char) : Bool := ruleWords.all fun word => !occurs word (lowerChars text)

theorem not_says_of_isMute (h : isMute text = true) (hw : word ∈ ruleWords) : ¬ Says word text := by
  have hnot := List.all_eq_true.mp h word hw
  rw [Bool.not_eq_true'] at hnot
  intro hsays
  rw [(occurs_iff _ _).mpr hsays] at hnot
  cases hnot

end Mute

end Storyboard
