import Storyboard.Proofs.Quotes
import Storyboard.Review.Bracket

/-!
# Nesting of brackets

The depth of a pair after a text is followed from any depth before it, so a text can be cut
into parts. A text is balanced exactly if it returns to the depth it began at and does not
fall below it. Escaping neither adds nor removes a bracket, so a literal is as balanced as
its text.
-/

namespace Storyboard.Review

namespace BracketPair

/-- The depth after a text, unless a closing bracket in it has no opening one. -/
def after (pair : BracketPair) : Nat → List Char → Option Nat
  | depth, [] => some depth
  | depth, c :: rest =>
    if c = pair.opener then pair.after (depth + 1) rest
    else if c = pair.closer then
      match depth with
      | 0 => none
      | depth + 1 => pair.after depth rest
    else pair.after depth rest

variable {pair : BracketPair} {c : Char} {depth deep : Nat} {text : List Char}

theorem after_opener (rest : List Char) :
    pair.after depth (pair.opener :: rest) = pair.after (depth + 1) rest := by
  simp [after]

theorem after_closer_zero (h : pair.closer ≠ pair.opener) (rest : List Char) :
    pair.after 0 (pair.closer :: rest) = none := by
  simp [after, h]

theorem after_closer_succ (h : pair.closer ≠ pair.opener) (rest : List Char) :
    pair.after (depth + 1) (pair.closer :: rest) = pair.after depth rest := by
  simp [after, h]

theorem after_other (ho : c ≠ pair.opener) (hc : c ≠ pair.closer) (rest : List Char) :
    pair.after depth (c :: rest) = pair.after depth rest := by
  simp [after, ho, hc]

theorem scan_eq_none_iff (line : Nat) :
    pair.scan depth line text = none ↔ pair.after depth text = some 0 := by
  induction text generalizing depth line with
  | nil => simp [scan, after]
  | cons c rest ih =>
    by_cases ho : c = pair.opener
    · simp only [scan, after, ho, if_true]
      exact ih line
    by_cases hc : c = pair.closer
    · subst hc
      simp only [scan, after, ho, if_false, if_true]
      cases depth with
      | zero => simp
      | succ depth => exact ih line
    · simp only [scan, after, ho, hc, if_false]
      exact ih _

theorem after_append (first second : List Char) :
    pair.after depth (first ++ second) =
      (pair.after depth first).bind fun deep => pair.after deep second := by
  induction first generalizing depth with
  | nil => rfl
  | cons c rest ih =>
    by_cases ho : c = pair.opener
    · simp only [List.cons_append, after, ho, if_true]
      exact ih
    by_cases hc : c = pair.closer
    · subst hc
      simp only [List.cons_append, after, ho, if_false, if_true]
      cases depth with
      | zero => rfl
      | succ depth => exact ih
    · simp only [List.cons_append, after, ho, hc, if_false]
      exact ih

/-- A text has no bracket of the pair. -/
def Spares (pair : BracketPair) (text : List Char) : Prop :=
  ∀ c ∈ text, c ≠ pair.opener ∧ c ≠ pair.closer

theorem after_spared (h : pair.Spares text) : pair.after depth text = some depth := by
  induction text with
  | nil => rfl
  | cons c rest ih =>
    obtain ⟨ho, hc⟩ := h c List.mem_cons_self
    rw [after_other ho hc]
    exact ih fun d hd => h d (List.mem_cons_of_mem _ hd)

theorem forall_heads_cons (bound : Nat) (rest : List Char) :
    (∀ head, head <+: c :: rest → head.count pair.closer ≤ bound + head.count pair.opener) ↔
      ∀ head, head <+: rest →
        (c :: head).count pair.closer ≤ bound + (c :: head).count pair.opener := by
  constructor
  · intro h head hp
    exact h _ (List.cons_prefix_cons.mpr ⟨rfl, hp⟩)
  · intro h head hp
    rcases List.prefix_cons_iff.mp hp with rfl | ⟨tail, rfl, htail⟩
    · rw [List.count_nil]
      exact Nat.zero_le _
    · exact h tail htail

/-- The depth after a text is what its brackets add up to, if no part of it from the
beginning on closes more than was open. -/
theorem after_eq_some_iff (hpair : pair.closer ≠ pair.opener) :
    pair.after depth text = some deep ↔
      (∀ head, head <+: text → head.count pair.closer ≤ depth + head.count pair.opener) ∧
        deep + text.count pair.closer = depth + text.count pair.opener := by
  -- On the text: a first bracket shifts the bound that its tails have to keep by one.
  induction text generalizing depth with
  | nil =>
    simp only [after, Option.some.injEq, List.prefix_nil, List.count_nil, forall_eq]
    omega
  | cons c rest ih =>
    rw [forall_heads_cons]
    by_cases ho : c = pair.opener
    · subst ho
      rw [after_opener, ih]
      simp only [List.count_cons_self, List.count_cons_of_ne hpair.symm]
      constructor
      · rintro ⟨h, he⟩
        exact ⟨fun head hp => by have := h head hp; omega, by omega⟩
      · rintro ⟨h, he⟩
        exact ⟨fun head hp => by have := h head hp; omega, by omega⟩
    · by_cases hc : c = pair.closer
      · subst hc
        simp only [List.count_cons_self, List.count_cons_of_ne hpair]
        cases depth with
        | zero =>
          rw [after_closer_zero hpair]
          constructor
          · intro h
            cases h
          -- The closing bracket alone is one too many.
          · rintro ⟨h, _⟩
            have hfirst := h [] List.nil_prefix
            simp at hfirst
        | succ depth =>
          rw [after_closer_succ hpair, ih]
          constructor
          · rintro ⟨h, he⟩
            exact ⟨fun head hp => by have := h head hp; omega, by omega⟩
          · rintro ⟨h, he⟩
            exact ⟨fun head hp => by have := h head hp; omega, by omega⟩
      · rw [after_other ho hc, ih]
        simp only [List.count_cons_of_ne ho, List.count_cons_of_ne hc]

end BracketPair

/-- No part of a text from its beginning on has more closing brackets than opening ones, and
the whole text has as many of both. -/
structure Balanced (pair : BracketPair) (text : List Char) : Prop where
  covered : ∀ head, head <+: text → head.count pair.closer ≤ head.count pair.opener
  even : text.count pair.opener = text.count pair.closer

theorem opener_ne_closer : ∀ pair ∈ bracketPairs, pair.closer ≠ pair.opener := by decide

theorem balanced_iff {pair : BracketPair} (hp : pair ∈ bracketPairs) {text : List Char} :
    Balanced pair text ↔ pair.after 0 text = some 0 := by
  rw [BracketPair.after_eq_some_iff (opener_ne_closer pair hp)]
  simp only [Nat.zero_add]
  constructor
  · rintro ⟨hcovered, heven⟩
    exact ⟨hcovered, heven.symm⟩
  · rintro ⟨hcovered, heven⟩
    exact ⟨hcovered, heven.symm⟩

/-- A balanced text returns to any depth that it begins at. -/
theorem Balanced.after {pair : BracketPair} (hp : pair ∈ bracketPairs) {text : List Char}
    (h : Balanced pair text) (depth : Nat) : pair.after depth text = some depth := by
  rw [BracketPair.after_eq_some_iff (opener_ne_closer pair hp)]
  refine ⟨fun head hhead => ?_, by rw [h.even]⟩
  have hcovered := h.covered head hhead
  omega

section Literal

open Json Text

variable {pair : BracketPair} {text : List Char}

theorem literalChar_bracket (hp : pair ∈ bracketPairs) :
    literalChar pair.opener = [pair.opener] ∧ literalChar pair.closer = [pair.closer] := by
  revert pair
  decide

/-- What quotes and escapes are written with, apart from hexadecimal digits. -/
def escapeLetters : List Char := ['"', '\\', 'n', 'r', 't', 'f', 'b', 'u']

theorem spares_letters (hp : pair ∈ bracketPairs) (h : ∀ c ∈ text, c ∈ escapeLetters) :
    pair.Spares text := by
  have hbracket : ∀ pair ∈ bracketPairs, pair.opener ∉ escapeLetters ∧
      pair.closer ∉ escapeLetters := by decide
  intro c hc
  constructor
  · rintro rfl
    exact (hbracket pair hp).1 (h _ hc)
  · rintro rfl
    exact (hbracket pair hp).2 (h _ hc)

theorem spares_unitEscape (hp : pair ∈ bracketPairs) (unit : Nat) :
    pair.Spares (unitEscape unit) := by
  have hdigit : ∀ d < 16, hexDigit d ≠ pair.opener ∧ hexDigit d ≠ pair.closer := by
    revert pair
    decide
  have hmark : pair.Spares ['\\', 'u'] := spares_letters hp (by simp [escapeLetters])
  intro c hc
  have hescape : unitEscape unit = ['\\', 'u'] ++ hexDigits 4 unit := rfl
  rw [hescape, List.mem_append] at hc
  rcases hc with hc | hc
  · exact hmark c hc
  · obtain ⟨d, hd, rfl⟩ := mem_hexDigits hc
    exact hdigit d hd

theorem spares_shortEscape (hp : pair ∈ bracketPairs) {c letter : Char}
    (h : shortEscape? c = some letter) : pair.Spares ['\\', letter] := by
  have hletter : letter ∈ escapeLetters := by
    unfold shortEscape? at h
    split at h <;> first | contradiction | (obtain rfl := Option.some.inj h; decide)
  refine spares_letters hp ?_
  rw [List.forall_mem_cons, List.forall_mem_singleton]
  exact ⟨by decide, hletter⟩

/-- Only a bracket is written with a bracket. -/
theorem after_literalChar (hp : pair ∈ bracketPairs) (depth : Nat) (c : Char) :
    pair.after depth (literalChar c) = pair.after depth [c] := by
  obtain ⟨hopener, hcloser⟩ := literalChar_bracket hp
  by_cases ho : c = pair.opener
  · rw [ho, hopener]
  by_cases hc : c = pair.closer
  · rw [hc, hcloser]
  have hspared : pair.Spares (literalChar c) := by
    unfold literalChar
    split
    · next letter hs => exact spares_shortEscape hp hs
    · split
      · rw [unitEscapes_eq]
        intro d hd
        obtain ⟨unit, _, hu⟩ := List.mem_flatMap.mp hd
        exact spares_unitEscape hp unit d hu
      · intro d hd
        obtain rfl := List.mem_singleton.mp hd
        exact ⟨ho, hc⟩
  rw [BracketPair.after_spared hspared, BracketPair.after_other ho hc, BracketPair.after]

theorem after_literalBody (hp : pair ∈ bracketPairs) (depth : Nat) (text : List Char) :
    pair.after depth (literalBody text) = pair.after depth text := by
  induction text generalizing depth with
  | nil => rfl
  | cons c rest ih =>
    have hcons : c :: rest = [c] ++ rest := rfl
    have hbody : literalBody (c :: rest) = literalChar c ++ literalBody rest := rfl
    rw [hbody, hcons, BracketPair.after_append, BracketPair.after_append, after_literalChar hp]
    simp only [ih]

theorem Balanced.after_literal (hp : pair ∈ bracketPairs) (h : Balanced pair text)
    (depth : Nat) : pair.after depth (literalChars text) = some depth := by
  have hquote : pair.Spares ['"'] := spares_letters hp (by simp [escapeLetters])
  have hchars : literalChars text = ['"'] ++ literalBody text ++ ['"'] := rfl
  rw [hchars, BracketPair.after_append, BracketPair.after_append,
    BracketPair.after_spared hquote, Option.bind_some, after_literalBody hp, h.after hp,
    Option.bind_some, BracketPair.after_spared hquote]

end Literal

section Depths

structure Depths where
  curly : Nat
  round : Nat
  square : Nat
deriving DecidableEq, Repr

def Depths.of (depths : Depths) (pair : BracketPair) : Nat :=
  if pair.opener = '\x7b' then depths.curly
  else if pair.opener = '(' then depths.round
  else depths.square

/-- A text leads from these depths to those. -/
abbrev Nests (low : Depths) (text : List Char) (high : Depths) : Prop :=
  ∀ pair ∈ bracketPairs, pair.after (low.of pair) text = some (high.of pair)

variable {low middle high : Depths} {first second text : List Char}

theorem Nests.append (h : Nests low first middle) (h' : Nests middle second high) :
    Nests low (first ++ second) high := by
  intro pair hp
  rw [BracketPair.after_append, h pair hp, Option.bind_some, h' pair hp]

theorem nests_literal (h : ∀ pair ∈ bracketPairs, Balanced pair text) (depths : Depths) :
    Nests depths (Json.literalChars text) depths :=
  fun pair hp => (h pair hp).after_literal hp _

/-- A text that leads from the ground to the ground has no issue. -/
theorem bracketIssues_of_nests (h : Nests ⟨0, 0, 0⟩ text ⟨0, 0, 0⟩) : bracketIssues text = [] := by
  rw [bracketIssues, List.filterMap_eq_nil_iff]
  intro pair hp
  have hground : Depths.of ⟨0, 0, 0⟩ pair = 0 := by
    revert pair
    decide
  have hafter := h pair hp
  rw [hground] at hafter
  rw [BracketPair.fault?, (BracketPair.scan_eq_none_iff 1).mpr hafter, Option.map_none]

end Depths

end Storyboard.Review
