import Mathlib.Data.List.Forall2
import Storyboard.Proofs.Trimming
import Storyboard.Text.Caseless
import Storyboard.Text.LowerCase

/-!
# Lower case as ASCII can tell it

Lower case that leaves letters outside ASCII alone differs from lower case only in characters
outside ASCII, place by place. So the two texts have the same length, lose the same end marks,
and one is an ASCII word exactly when the other is. The induction is on the text; what stands
before a character matters to a sigma alone, which lies outside ASCII either way.
-/

namespace Storyboard.Text

variable {c d : Char} {text other : List Char} {drop : Char → Bool}

/-- The character lies outside ASCII. -/
def IsWide (c : Char) : Prop := 0x80 ≤ c.toNat

/-- The same character, or two that lie outside ASCII. -/
def AsciiAlike (c d : Char) : Prop := c = d ∨ IsWide c ∧ IsWide d

section Letters

theorem smallLetter_ofNat : ∀ code < 0x80,
    smallLetter (Char.ofNat code) = (Char.ofNat code).toLower := by decide +kernel

theorem smallLetter_of_ascii (h : ¬ IsWide c) : smallLetter c = c.toLower := by
  have hcode := smallLetter_ofNat c.toNat (Nat.lt_of_not_le h)
  rwa [Char.ofNat_toNat] at hcode

theorem toLower_of_wide (h : IsWide c) : c.toLower = c := by
  refine dif_neg fun hcapital => ?_
  have hlast : c.toNat ≤ 'Z'.toNat := UInt32.le_iff_toNat_le.mp hcapital.2
  have hz : 'Z'.toNat = 0x5A := rfl
  unfold IsWide at h
  omega

/-- The small letters of the run are characters outside ASCII. -/
structure CapitalRun.IsWide (run : CapitalRun) : Prop where
  small : 0x80 ≤ run.small
  valid : run.small + (run.last - run.first) < 0xD800 ∨
    0xE000 ≤ run.small ∧ run.small + (run.last - run.first) < 0x110000

instance (run : CapitalRun) : Decidable run.IsWide :=
  decidable_of_iff (0x80 ≤ run.small ∧ (run.small + (run.last - run.first) < 0xD800 ∨
    0xE000 ≤ run.small ∧ run.small + (run.last - run.first) < 0x110000))
    ⟨fun h => ⟨h.1, h.2⟩, fun h => ⟨h.1, h.2⟩⟩

/-- A small letter in ASCII has a capital in ASCII, or the Kelvin sign. -/
theorem wide_capitalRuns : ∀ run ∈ capitalRuns,
    run.last < 0x80 ∨ run.first = 0x212A ∧ run.last = 0x212A ∨ run.IsWide := by decide +kernel

theorem CapitalRun.bounds_of_holds {run : CapitalRun} {code : Nat} (h : run.holds code = true) :
    run.first ≤ code ∧ code ≤ run.last := by
  simp only [CapitalRun.holds, Bool.and_eq_true, decide_eq_true_eq] at h
  exact h.1

theorem CapitalRun.IsWide.smallLetter {run : CapitalRun} (h : run.IsWide) {code : Nat}
    (hcode : run.holds code = true) :
    Text.IsWide (Char.ofNat (run.small + (code - run.first))) := by
  obtain ⟨hsmall, hvalid⟩ := h
  have hbounds := CapitalRun.bounds_of_holds hcode
  have hchar : (run.small + (code - run.first)).isValidChar := by
    unfold Nat.isValidChar
    omega
  have hcode : (Char.ofNat (run.small + (code - run.first))).toNat =
      run.small + (code - run.first) := by
    rw [Char.ofNat, dif_pos hchar]
    rfl
  unfold Text.IsWide
  omega

theorem wide_smallLetter (h : IsWide c) (hk : c ≠ '\u212A') : IsWide (smallLetter c) := by
  unfold smallLetter
  split
  · next run hfind =>
    have hholds := List.find?_some hfind
    have hbounds := CapitalRun.bounds_of_holds hholds
    rcases wide_capitalRuns run (List.mem_of_find?_eq_some hfind) with hlast | hkelvin | hwide
    · unfold IsWide at h
      omega
    · have hcode : c.toNat = '\u212A'.toNat := by
        have hvalue : '\u212A'.toNat = 0x212A := rfl
        omega
      exact absurd (Char.toNat_inj.mp hcode) hk
    · exact hwide.smallLetter hholds
  · exact h

theorem wide_smallSigma (before rest : List Char) : IsWide (smallSigma before rest) := by
  unfold smallSigma
  split <;> unfold IsWide <;> decide

end Letters

section Texts

/-- The lower case of a character is alike in both ways of writing it. -/
theorem alike_lowerCaseFrom (before text : List Char) :
    List.Forall₂ AsciiAlike (lowerCaseFrom before text) (lowerChars text) := by
  induction text generalizing before with
  | nil => exact .nil
  | cons c rest ih =>
    rw [lowerCaseFrom, lowerChars, List.flatMap_cons]
    refine List.rel_append ?_ (ih (c :: before))
    have hself : List.Forall₂ AsciiAlike ['i', '\u0307'] ['i', '\u0307'] :=
      .cons (.inl rfl) (.cons (.inl rfl) .nil)
    unfold lowerChar
    by_cases hdotted : c = '\u0130'
    · subst hdotted
      exact hself
    by_cases hkelvin : c = '\u212A'
    · subst hkelvin
      exact .cons (.inl rfl) .nil
    simp only [beq_iff_eq, hdotted, hkelvin, if_false]
    by_cases hsigma : c = '\u03A3'
    · subst hsigma
      exact .cons (.inr ⟨wide_smallSigma before rest, by unfold IsWide; decide⟩) .nil
    rw [if_neg hsigma]
    refine .cons ?_ .nil
    by_cases hwide : IsWide c
    · exact .inr ⟨wide_smallLetter hwide hkelvin, (toLower_of_wide hwide).symm ▸ hwide⟩
    · exact .inl (smallLetter_of_ascii hwide)

theorem alike_lowerCase (text : List Char) :
    List.Forall₂ AsciiAlike (lowerCase text) (lowerChars text) :=
  alike_lowerCaseFrom [] text

/-- Texts that are alike lose the same tail of ASCII characters. -/
theorem alike_trimEndWhere (hdrop : ∀ c, IsWide c → drop c = false)
    (h : List.Forall₂ AsciiAlike text other) :
    List.Forall₂ AsciiAlike (trimEndWhere drop text) (trimEndWhere drop other) := by
  induction h with
  | nil => exact .nil
  | @cons c d text other hhead _ ih =>
    have hsame : drop c = drop d := by
      rcases hhead with rfl | ⟨hc, hd⟩
      · rfl
      · rw [hdrop c hc, hdrop d hd]
    rw [trimEndWhere, trimEndWhere]
    generalize trimEndWhere drop text = kept at ih ⊢
    generalize trimEndWhere drop other = keptOther at ih ⊢
    cases ih with
    | nil =>
      simp only [hsame]
      split
      · exact .nil
      · exact .cons hhead .nil
    | cons hnext hrest => exact .cons hhead (.cons hnext hrest)

theorem eq_of_alike (h : List.Forall₂ AsciiAlike text other) (hw : ∀ c ∈ text, ¬ IsWide c) :
    text = other := by
  have hboth : List.Forall₂ (fun c d => ¬ IsWide c ∧ AsciiAlike c d) text other :=
    (List.forall₂_and_left text other).mpr ⟨hw, h⟩
  have heq : List.Forall₂ (· = ·) text other :=
    hboth.imp fun c d hcd => hcd.2.resolve_right fun hwide => hcd.1 hwide.1
  rwa [List.forall₂_eq_eq_eq] at heq

theorem AsciiAlike.symm (h : AsciiAlike c d) : AsciiAlike d c :=
  h.imp Eq.symm And.symm

/-- Of texts that are alike, both or none are among ASCII words. -/
theorem mem_words_iff_of_alike {words : List String}
    (hwords : ∀ word ∈ words, ∀ c ∈ word.toList, ¬ IsWide c)
    (h : List.Forall₂ AsciiAlike text other) :
    String.ofList text ∈ words ↔ String.ofList other ∈ words := by
  have himp {a b : List Char} (hab : List.Forall₂ AsciiAlike a b)
      (hm : String.ofList a ∈ words) : String.ofList b ∈ words := by
    have hsame : a = b := eq_of_alike hab (by simpa using hwords _ hm)
    rwa [← hsame]
  exact ⟨himp h, himp (.flip (h.imp fun _ _ => AsciiAlike.symm))⟩

end Texts

end Storyboard.Text
