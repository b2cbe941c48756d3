import Mathlib.Data.List.Chain
import Storyboard.Json.Reader

/-!
# Texts and their units

A text is written as its units of sixteen bits and read by joining them again. This
gives the text back as long as no high half stands directly before a low one, which
would be joined: a text of characters alone has no halves at all.
-/

namespace Storyboard.Text

-- Deciding whether a character keeps a half would count down from `halfShift`.
attribute [local irreducible] halfOf? halfShift

/-- The units of a code: itself, or the two units of a pair. -/
def codeUnits (code : Nat) : List Nat :=
  if code < firstPaired then [code] else [highUnit code, lowUnit code]

/-- The units of a character: its half, or those of its code. -/
def charUnits (c : Char) : List Nat := (halfOf? c).elim (codeUnits c.toNat) fun half => [half]

/-- The units of a text. -/
def units (text : List Char) : List Nat := text.flatMap charUnits

/-- The character keeps a high half. -/
def keepsHigh (c : Char) : Bool := (halfOf? c).any isHighUnit

/-- The character keeps a low half. -/
def keepsLow (c : Char) : Bool := (halfOf? c).any isLowUnit

/-- No high half stands directly before a low one. -/
def Unpaired (text : List Char) : Prop :=
  text.IsChain fun first second => keepsHigh first = true → keepsLow second = false

/-- A text of characters alone has no halves that could be joined. -/
theorem unpaired_of_whole {text : List Char} (h : ∀ c ∈ text, halfOf? c = none) :
    Unpaired text := by
  induction text with
  | nil => exact .nil
  | cons c text ih =>
    rw [List.forall_mem_cons] at h
    refine List.IsChain.cons (ih h.2) fun next _ hhigh => ?_
    rw [keepsHigh, h.1, Option.any_none] at hhigh
    contradiction

theorem charUnits_of_half {c : Char} {half : Nat} (h : halfOf? c = some half) :
    charUnits c = [half] := by
  rw [charUnits, h, Option.elim_some]

theorem charUnits_of_single {c : Char} (h : halfOf? c = none) (hc : c.toNat < firstPaired) :
    charUnits c = [c.toNat] := by
  rw [charUnits, h, Option.elim_none, codeUnits, if_pos hc]

theorem charUnits_of_pair {c : Char} (h : halfOf? c = none) (hc : ¬ c.toNat < firstPaired) :
    charUnits c = [highUnit c.toNat, lowUnit c.toNat] := by
  rw [charUnits, h, Option.elim_none, codeUnits, if_neg hc]

theorem halfOf?_eq_some {c : Char} {half : Nat} (h : halfOf? c = some half) :
    isHalf half = true ∧ halfChar half = c := by
  unfold halfOf? at h
  split at h
  · next hhalf =>
    obtain rfl := Option.some.inj h
    refine ⟨hhalf, ?_⟩
    have hle : halfShift ≤ c.toNat := by
      simp only [isHalf, Bool.and_eq_true, decide_eq_true_eq] at hhalf
      omega
    rw [halfChar, Nat.sub_add_cancel hle, Char.ofNat_toNat]
  · contradiction

/-- Characters before the block that keeps halves keep none. -/
theorem halfOf?_eq_none {c : Char} (h : c.toNat < halfShift + 0xD800) : halfOf? c = none := by
  have hhalf : isHalf (c.toNat - halfShift) = false := by
    simp only [isHalf, Bool.and_eq_false_iff, decide_eq_false_iff_not]
    omega
  unfold halfOf?
  rw [hhalf, if_neg (by decide)]

theorem charUnits_of_ascii {c : Char} (h : c.toNat < 0x80) : charUnits c = [c.toNat] :=
  charUnits_of_single (halfOf?_eq_none (by omega)) (by unfold firstPaired; omega)

theorem toNat_not_half (c : Char) : isHalf c.toNat = false := by
  have hvalid : c.toNat < 0xD800 ∨ 0xDFFF < c.toNat ∧ c.toNat < 0x110000 := c.valid
  simp only [isHalf, Bool.and_eq_false_iff, decide_eq_false_iff_not]
  omega

theorem loneChar_toNat (c : Char) : loneChar c.toNat = c := by
  rw [loneChar, toNat_not_half, if_neg (by decide), Char.ofNat_toNat]

/-- The two units of a character beyond the first plane are a high and a low one, and
give the character back. -/
theorem pair_of_char {c : Char} (h : ¬ c.toNat < firstPaired) :
    isHighUnit (highUnit c.toNat) = true ∧ isLowUnit (lowUnit c.toNat) = true ∧
      pairedChar (highUnit c.toNat) (lowUnit c.toNat) = c := by
  have hvalid : c.toNat < 0xD800 ∨ 0xDFFF < c.toNat ∧ c.toNat < 0x110000 := c.valid
  have hbound : 0x10000 ≤ c.toNat := Nat.not_lt.mp h
  have hcode : firstPaired + (highUnit c.toNat - 0xD800) * 0x400 + (lowUnit c.toNat - 0xDC00) =
      c.toNat := by
    simp only [firstPaired, highUnit, lowUnit]
    omega
  refine ⟨?_, ?_, ?_⟩
  · simp only [isHighUnit, Bool.and_eq_true, decide_eq_true_eq]
    simp only [highUnit, firstPaired]
    omega
  · simp only [isLowUnit, Bool.and_eq_true, decide_eq_true_eq]
    simp only [lowUnit, firstPaired]
    omega
  · rw [pairedChar, hcode, Char.ofNat_toNat]

theorem not_high_of_not_half {unit : Nat} (h : isHalf unit = false) :
    isHighUnit unit = false := by
  simp only [isHalf, Bool.and_eq_false_iff, decide_eq_false_iff_not] at h
  simp only [isHighUnit, Bool.and_eq_false_iff, decide_eq_false_iff_not]
  omega

theorem not_low_of_not_half {unit : Nat} (h : isHalf unit = false) :
    isLowUnit unit = false := by
  simp only [isHalf, Bool.and_eq_false_iff, decide_eq_false_iff_not] at h
  simp only [isLowUnit, Bool.and_eq_false_iff, decide_eq_false_iff_not]
  omega

/-- A character has one unit that stands for it alone, or two that form a pair. -/
theorem charUnits_cases (c : Char) :
    (∃ unit, charUnits c = [unit] ∧ loneChar unit = c ∧ isHighUnit unit = keepsHigh c ∧
      isLowUnit unit = keepsLow c) ∨
    ∃ high low, charUnits c = [high, low] ∧ isHighUnit high = true ∧ isLowUnit low = true ∧
      pairedChar high low = c := by
  cases h : halfOf? c with
  | some half =>
    obtain ⟨hhalf, hchar⟩ := halfOf?_eq_some h
    refine Or.inl ⟨half, charUnits_of_half h, ?_, by simp [keepsHigh, h], by simp [keepsLow, h]⟩
    rw [loneChar, if_pos hhalf, hchar]
  | none =>
    by_cases hc : c.toNat < firstPaired
    · refine Or.inl ⟨c.toNat, charUnits_of_single h hc, loneChar_toNat c, ?_, ?_⟩
      · rw [not_high_of_not_half (toNat_not_half c), keepsHigh, h, Option.any_none]
      · rw [not_low_of_not_half (toNat_not_half c), keepsLow, h, Option.any_none]
    · exact Or.inr ⟨_, _, charUnits_of_pair h hc, pair_of_char hc⟩

theorem high_not_low {unit : Nat} (h : isHighUnit unit = true) : isLowUnit unit = false := by
  simp only [isHighUnit, Bool.and_eq_true, decide_eq_true_eq] at h
  simp only [isLowUnit, Bool.and_eq_false_iff, decide_eq_false_iff_not]
  omega

/-- The first unit of a text is low only if its first character keeps a low half. -/
theorem head_units_low {c : Char} {text : List Char} {unit : Nat} {rest : List Nat}
    (h : units (c :: text) = unit :: rest) (hl : isLowUnit unit = true) : keepsLow c = true := by
  rw [units, List.flatMap_cons] at h
  rcases charUnits_cases c with ⟨found, hu, _, _, hlow⟩ | ⟨high, low, hu, hhigh, _, _⟩
  · rw [hu] at h
    obtain ⟨rfl, _⟩ := List.cons.inj h
    rw [← hlow, hl]
  · rw [hu] at h
    obtain ⟨rfl, _⟩ := List.cons.inj h
    rw [high_not_low hhigh] at hl
    cases hl

theorem joinUnits_lone {unit : Nat} {rest : List Nat}
    (h : ∀ low more, rest = low :: more → isHighUnit unit = true → isLowUnit low = false) :
    joinUnits (unit :: rest) = loneChar unit :: joinUnits rest := by
  cases rest with
  | nil => rfl
  | cons low more =>
    have hpair : (isHighUnit unit && isLowUnit low) = false := by
      rw [Bool.and_eq_false_imp]
      exact h low more rfl
    rw [joinUnits, hpair, if_neg (by decide)]

/-- Joining the units of a text gives the text back, unless two of its halves form a pair. -/
theorem joinUnits_units {text : List Char} (h : Unpaired text) : joinUnits (units text) = text := by
  induction text with
  | nil => rfl
  | cons c text ih =>
    have hrest : joinUnits (units text) = text := ih h.tail
    have hunits : units (c :: text) = charUnits c ++ units text := List.flatMap_cons
    rcases charUnits_cases c with ⟨unit, hu, hchar, hhigh, _⟩ | ⟨high, low, hu, hhigh, hlow, hchar⟩
    · -- A high unit would join a low one behind it, but then the text has such a pair.
      rw [hunits, hu, List.singleton_append, joinUnits_lone ?_, hrest, hchar]
      intro low more heq hunit
      cases text with
      | nil => contradiction
      | cons next text =>
        rw [hhigh] at hunit
        have hnext : keepsLow next = false := (List.isChain_cons_cons.mp h).1 hunit
        by_contra hl
        rw [head_units_low heq (by simpa using hl)] at hnext
        contradiction
    · rw [hunits, hu]
      change joinUnits (high :: low :: units text) = _
      rw [joinUnits, hhigh, hlow, Bool.true_and, if_pos rfl, hrest, hchar]

end Storyboard.Text

namespace Storyboard.Json

open Storyboard.Text

attribute [local irreducible] halfOf? halfShift

theorem shortEscape?_eq_none {c : Char} (h : shortEscape? c = none) : c ≠ '"' ∧ c ≠ '\\' := by
  constructor <;>
  · rintro rfl
    contradiction

theorem unitEscapes_eq : unitEscapes = fun c => (charUnits c).flatMap unitEscape := by
  -- Opened as a function: at a character the match on its half would be evaluated.
  delta unitEscapes
  funext c
  cases h : halfOf? c with
  | some half => rw [charUnits_of_half h, List.flatMap_singleton]
  | none =>
    by_cases hc : c.toNat < firstPaired
    · rw [charUnits_of_single h hc, List.flatMap_singleton]
      exact if_pos hc
    · rw [charUnits_of_pair h hc, List.flatMap_cons, List.flatMap_singleton]
      exact if_neg hc

theorem charUnits_lt {c : Char} {unit : Nat} (h : unit ∈ charUnits c) : unit < 0x10000 := by
  cases hhalf : halfOf? c with
  | some half =>
    rw [charUnits_of_half hhalf, List.mem_singleton] at h
    obtain ⟨hh, _⟩ := halfOf?_eq_some hhalf
    simp only [isHalf, Bool.and_eq_true, decide_eq_true_eq] at hh
    omega
  | none =>
    by_cases hc : c.toNat < firstPaired
    · rw [charUnits_of_single hhalf hc, List.mem_singleton] at h
      rw [h]
      exact hc
    · rw [charUnits_of_pair hhalf hc] at h
      obtain ⟨hhigh, hlow, _⟩ := pair_of_char hc
      simp only [isHighUnit, isLowUnit, Bool.and_eq_true, decide_eq_true_eq] at hhigh hlow
      simp only [List.mem_cons, List.not_mem_nil, or_false] at h
      omega

theorem unitOf?_hexDigits {unit : Nat} (h : unit < 0x10000) :
    unitOf? (hexDigit (unit / 16 / 16 / 16 % 16)) (hexDigit (unit / 16 / 16 % 16))
      (hexDigit (unit / 16 % 16)) (hexDigit (unit % 16)) = some unit := by
  have hdigit (n : Nat) : hexValue? (hexDigit (n % 16)) = some (n % 16) :=
    hexValue?_hexDigit _ (Nat.mod_lt n (by decide))
  have hvalue : ((unit / 16 / 16 / 16 % 16 * 16 + unit / 16 / 16 % 16) * 16 +
      unit / 16 % 16) * 16 + unit % 16 = unit := by omega
  simp [unitOf?, hdigit, hvalue]

section ReadCodes

variable {opened : Nat} {rest : List Char}

theorem readCodes_unitEscape {unit : Nat} (h : unit < 0x10000) (hrest : rest ≠ []) :
    readCodes opened (unitEscape unit ++ rest) = addCode unit (readCodes opened rest) := by
  have hempty : rest.isEmpty = false := by simpa using hrest
  change readCodes opened ('\\' :: 'u' :: hexDigit (unit / 16 / 16 / 16 % 16) ::
    hexDigit (unit / 16 / 16 % 16) :: hexDigit (unit / 16 % 16) :: hexDigit (unit % 16) :: rest) = _
  rw [readCodes, hempty, if_neg (by decide), unitOf?_hexDigits h]

/-- Adds codes to what the rest of a text was read as. -/
def addCodes (codes : List Nat) (reading : Reading (List Nat)) : Reading (List Nat) :=
  reading.map fun (later, rest) => (codes ++ later, rest)

theorem addCode_addCodes (code : Nat) (codes : List Nat) (reading : Reading (List Nat)) :
    addCode code (addCodes codes reading) = addCodes (code :: codes) reading := by
  cases reading <;> rfl

theorem addCodes_addCodes (first second : List Nat) (reading : Reading (List Nat)) :
    addCodes first (addCodes second reading) = addCodes (first ++ second) reading := by
  cases reading with
  | error stop => rfl
  | ok read => simp [addCodes, Except.map]

theorem readCodes_unitEscapes {codes : List Nat} (h : ∀ unit ∈ codes, unit < 0x10000)
    (hrest : rest ≠ []) :
    readCodes opened (codes.flatMap unitEscape ++ rest) =
      addCodes codes (readCodes opened rest) := by
  induction codes with
  | nil => cases hread : readCodes opened rest <;> simp [addCodes, Except.map, hread]
  | cons code codes ih =>
    have hmore : codes.flatMap unitEscape ++ rest ≠ [] := by simp [hrest]
    rw [List.flatMap_cons, List.append_assoc,
      readCodes_unitEscape (h code List.mem_cons_self) hmore,
      ih fun unit hu => h unit (List.mem_cons_of_mem _ hu), addCode_addCodes]

/-- A short escape is read as the character for which its letter stands. -/
theorem readCodes_shortEscape {c letter : Char} (h : shortEscape? c = some letter) :
    readCodes opened ('\\' :: letter :: rest) = addCode c.toNat (readCodes opened rest) := by
  unfold shortEscape? at h
  split at h <;> first | contradiction | (obtain rfl := Option.some.inj h; rfl)

theorem readCodes_plain {c : Char} (hq : c ≠ '"') (hb : c ≠ '\\') (hc : ¬ c.toNat < 0x20) :
    readCodes opened (c :: rest) = addCode c.toNat (readCodes opened rest) := by
  rw [readCodes, if_neg hc]
  all_goals simp_all

theorem addCodes_singleton (code : Nat) (reading : Reading (List Nat)) :
    addCodes [code] reading = addCode code reading := rfl

/-- What stands for a character inside a literal is read as the units of the character. -/
theorem readCodes_literalChar (c : Char) (hrest : rest ≠ []) :
    readCodes opened (literalChar c ++ rest) = addCodes (charUnits c) (readCodes opened rest) := by
  unfold literalChar
  split
  · next letter hs =>
    have hascii : c.toNat < 0x80 := by
      unfold shortEscape? at hs
      split at hs <;> first | contradiction | decide
    rw [charUnits_of_ascii hascii, addCodes_singleton]
    exact readCodes_shortEscape hs
  · next hnone =>
    obtain ⟨hq, hb⟩ := shortEscape?_eq_none hnone
    split
    · rw [unitEscapes_eq]
      exact readCodes_unitEscapes (fun unit hu => charUnits_lt hu) hrest
    · next hc =>
      simp only [Bool.or_eq_true, decide_eq_true_eq, not_or] at hc
      rw [charUnits_of_ascii (by omega), addCodes_singleton]
      exact readCodes_plain hq hb hc.1

theorem readCodes_literalBody (text : List Char) (hrest : rest ≠ []) :
    readCodes opened (literalBody text ++ rest) =
      addCodes (units text) (readCodes opened rest) := by
  induction text with
  | nil =>
    cases hread : readCodes opened rest <;>
    simp [literalBody, units, addCodes, Except.map, hread]
  | cons c text ih =>
    have hmore : literalBody text ++ rest ≠ [] := by simp [hrest]
    change readCodes opened (literalChar c ++ literalBody text ++ rest) =
      addCodes (charUnits c ++ units text) _
    rw [List.append_assoc, readCodes_literalChar c hmore, ih, addCodes_addCodes]

end ReadCodes

theorem readText_literalBody (text : List Char) :
    readText (literalBody text ++ ['"']) = .ok (String.ofList (joinUnits (units text)), []) := by
  have hend (opened : Nat) : readCodes opened ['"'] = .ok ([], []) := rfl
  rw [readText, readCodes_literalBody text (List.cons_ne_nil _ _), hend]
  simp [addCodes, Except.map]

/-- A text between quotes is read as it reads after the first of them. -/
theorem read_quoted (room : Nat) {body : List Char} {text : String}
    (h : readText (body ++ ['"']) = .ok (text, [])) :
    Json.read room (String.ofList ('"' :: body ++ ['"'])) = .ok (.text text) := by
  have hlist : (String.ofList ('"' :: body ++ ['"'])).toList = '"' :: (body ++ ['"']) :=
    String.toList_ofList
  have hgap (rest : List Char) : skipGap ('"' :: rest) = '"' :: rest := rfl
  have hvalue (depth : Nat) : readValue (depth + 1) room ('"' :: (body ++ ['"'])) =
      .ok (.text text, []) := by
    rw [readValue, h]
    rfl
  have hdocument : readDocument room ('"' :: (body ++ ['"'])) = .ok (.text text) := by
    rw [readDocument, hgap, hvalue]
    rfl
  have hmark : refuseMark ('"' :: (body ++ ['"'])) = .ok () := rfl
  rw [Json.read, readDecoded, hlist, hmark, hdocument]
  rfl

/-- A literal is read as the text whose units it holds. -/
theorem read_literal (room : Nat) (text : String) :
    Json.read room (literal text) =
      .ok (.text (String.ofList (joinUnits (units text.toList)))) :=
  read_quoted room (readText_literalBody text.toList)

/-- A literal is read as the text that it was written from. -/
theorem read_literal_of_unpaired (room : Nat) {text : String} (h : Unpaired text.toList) :
    Json.read room (literal text) = .ok (.text text) := by
  rw [read_literal, joinUnits_units h, String.ofList_toList]

end Storyboard.Json
