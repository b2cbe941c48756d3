import Storyboard.Proofs.Units

/-!
# Strings in code

A quote opens a string, a backslash inside it takes the character after it along, and
a quote that no backslash precedes closes it. The lexer below knows nothing else of the
code. It reads one character at a time, so texts in which every string is closed can be
read one after the other.
-/

namespace Storyboard.Quotes

open Storyboard.Text

/-- A character outside of strings, or a whole string, as it is written between its quotes. -/
inductive Token where
  | plain (c : Char)
  | quoted (body : List Char)
deriving DecidableEq, Repr

/-- Where the lexer stands: in code, in a string of which it has read a part, or after a
backslash in it. -/
inductive Mode where
  | code
  | inside (body : List Char)
  | escaped (body : List Char)
deriving DecidableEq, Repr

/-- Reads a text to its end; there is no result if a string is open there. -/
def lex : Mode → List Char → Option (List Token)
  | .code, [] => some []
  | .inside _, [] => none
  | .escaped _, [] => none
  | .code, c :: rest =>
    if c = '"' then lex (.inside []) rest else (lex .code rest).map (.plain c :: ·)
  | .inside body, c :: rest =>
    if c = '"' then (lex .code rest).map (.quoted body :: ·)
    else if c = '\\' then lex (.escaped body) rest
    else lex (.inside (body ++ [c])) rest
  | .escaped body, c :: rest => lex (.inside (body ++ ['\\', c])) rest

/-- The text outside of strings. -/
def outside (tokens : List Token) : List Char :=
  tokens.filterMap fun
    | .plain c => some c
    | .quoted _ => none

/-- The strings, in the order in which they stand. -/
def strings (tokens : List Token) : List (List Char) :=
  tokens.filterMap fun
    | .plain _ => none
    | .quoted body => some body

theorem outside_append (first second : List Token) :
    outside (first ++ second) = outside first ++ outside second :=
  List.filterMap_append

theorem strings_append (first second : List Token) :
    strings (first ++ second) = strings first ++ strings second :=
  List.filterMap_append

/-- After a text whose strings are closed the lexer stands in code. -/
theorem lex_append {mode : Mode} {text : List Char} {tokens : List Token}
    (h : lex mode text = some tokens) (rest : List Char) :
    lex mode (text ++ rest) = (lex .code rest).map (tokens ++ ·) := by
  -- On the text, for every mode: a character may open or close a string.
  induction text generalizing mode tokens with
  | nil =>
    cases mode with
    | code =>
      obtain rfl := Option.some.inj h
      simp
    | inside body => simp [lex] at h
    | escaped body => simp [lex] at h
  | cons c text ih =>
    cases mode with
    | code =>
      rw [List.cons_append]
      by_cases hc : c = '"'
      · simp only [lex, hc, if_true] at h ⊢
        exact ih h
      · simp only [lex, hc, if_false] at h ⊢
        obtain ⟨later, hl, rfl⟩ := Option.map_eq_some_iff.mp h
        rw [ih hl, Option.map_map]
        rfl
    | inside body =>
      rw [List.cons_append]
      by_cases hc : c = '"'
      · simp only [lex, hc, if_true] at h ⊢
        obtain ⟨later, hl, rfl⟩ := Option.map_eq_some_iff.mp h
        rw [ih hl, Option.map_map]
        rfl
      · by_cases hb : c = '\\'
        · subst hb
          simp only [lex, hc, if_false, if_true] at h ⊢
          exact ih h
        · simp only [lex, hc, hb, if_false] at h ⊢
          exact ih h
    | escaped body =>
      rw [List.cons_append]
      simp only [lex] at h ⊢
      exact ih h

/-- A text without a quote is all outside of strings. -/
theorem lex_plain {text : List Char} (h : ∀ c ∈ text, c ≠ '"') :
    lex .code text = some (text.map .plain) := by
  induction text with
  | nil => rfl
  | cons c text ih =>
    have hc : c ≠ '"' := h c List.mem_cons_self
    have hrest := ih fun d hd => h d (List.mem_cons_of_mem _ hd)
    simp only [lex, hc, if_false, hrest]
    rfl

theorem strings_plain (text : List Char) : strings (text.map .plain) = [] := by
  simp [strings, List.filterMap_map]

theorem lex_escape (body rest : List Char) (letter : Char) :
    lex (.inside body) ('\\' :: letter :: rest) = lex (.inside (body ++ ['\\', letter])) rest := by
  simp [lex]

theorem lex_inside {body rest : List Char} {c : Char} (hq : c ≠ '"') (hb : c ≠ '\\') :
    lex (.inside body) (c :: rest) = lex (.inside (body ++ [c])) rest := by
  simp [lex, hq, hb]

theorem lex_inside_plain {text : List Char} (h : ∀ c ∈ text, c ≠ '"' ∧ c ≠ '\\')
    (body rest : List Char) :
    lex (.inside body) (text ++ rest) = lex (.inside (body ++ text)) rest := by
  induction text generalizing body with
  | nil => rw [List.append_nil, List.nil_append]
  | cons c text ih =>
    have hc := h c List.mem_cons_self
    rw [List.cons_append, lex_inside hc.1 hc.2,
      ih fun d hd => h d (List.mem_cons_of_mem _ hd), List.append_assoc, List.singleton_append]

section Literal

open Json

theorem hexDigit_ne {d : Nat} (h : d < 16) :
    hexDigit d ≠ '"' ∧ hexDigit d ≠ '\\' ∧ (hexDigit d).toNat < 0x80 := by
  revert d
  decide

theorem lex_unitEscape (body rest : List Char) (unit : Nat) :
    lex (.inside body) (unitEscape unit ++ rest) =
      lex (.inside (body ++ unitEscape unit)) rest := by
  have hplain : ∀ c ∈ hexDigits 4 unit, c ≠ '"' ∧ c ≠ '\\' := by
    intro c hc
    obtain ⟨d, hd, rfl⟩ := mem_hexDigits hc
    exact ⟨(hexDigit_ne hd).1, (hexDigit_ne hd).2.1⟩
  rw [unitEscape, List.cons_append, List.cons_append, lex_escape, lex_inside_plain hplain,
    List.append_assoc, List.cons_append, List.singleton_append]

theorem lex_unitEscapes (codes : List Nat) (body rest : List Char) :
    lex (.inside body) (codes.flatMap unitEscape ++ rest) =
      lex (.inside (body ++ codes.flatMap unitEscape)) rest := by
  induction codes generalizing body with
  | nil => rw [List.flatMap_nil, List.nil_append, List.append_nil]
  | cons code codes ih =>
    rw [List.flatMap_cons, List.append_assoc, lex_unitEscape, ih, List.append_assoc]

theorem shortEscape?_ascii {c letter : Char} (h : shortEscape? c = some letter) :
    letter.toNat < 0x80 := by
  unfold shortEscape? at h
  split at h <;> first | contradiction | (obtain rfl := Option.some.inj h; decide)

/-- No character of a text ends the literal that it stands in. -/
theorem lex_literalChar (body rest : List Char) (c : Char) :
    lex (.inside body) (literalChar c ++ rest) =
      lex (.inside (body ++ literalChar c)) rest := by
  unfold literalChar
  split
  · exact lex_escape body rest _
  · next hnone =>
    split
    · rw [unitEscapes_eq]
      exact lex_unitEscapes _ body rest
    · obtain ⟨hq, hb⟩ := shortEscape?_eq_none hnone
      exact lex_inside hq hb

theorem lex_literalBody (text body rest : List Char) :
    lex (.inside body) (literalBody text ++ rest) =
      lex (.inside (body ++ literalBody text)) rest := by
  induction text generalizing body with
  | nil => rw [literalBody, List.flatMap_nil, List.nil_append, List.append_nil]
  | cons c text ih =>
    change lex _ (literalChar c ++ literalBody text ++ rest) =
      lex (.inside (body ++ (literalChar c ++ literalBody text))) rest
    rw [List.append_assoc, lex_literalChar, ih, List.append_assoc]

/-- A literal is read as one string. -/
theorem lex_literalChars (text : List Char) :
    lex .code (literalChars text) = some [.quoted (literalBody text)] := by
  have hopen : lex .code (literalChars text) = lex (.inside []) (literalBody text ++ ['"']) := by
    rw [literalChars, List.cons_append]
    rfl
  rw [hopen, lex_literalBody]
  rfl

/-- Characters below the end of ASCII. -/
def IsAscii (text : List Char) : Prop := ∀ c ∈ text, c.toNat < 0x80

theorem IsAscii.append {first second : List Char} (h₁ : IsAscii first) (h₂ : IsAscii second) :
    IsAscii (first ++ second) := by
  intro c hc
  rcases List.mem_append.mp hc with hc | hc
  · exact h₁ c hc
  · exact h₂ c hc

theorem unitEscape_ascii (unit : Nat) : IsAscii (unitEscape unit) := by
  have hdigits : IsAscii (hexDigits 4 unit) := by
    intro c hc
    obtain ⟨d, hd, rfl⟩ := mem_hexDigits hc
    exact (hexDigit_ne hd).2.2
  have hmark : IsAscii ['\\', 'u'] := by simp [IsAscii]
  exact hmark.append hdigits

theorem literalChar_ascii (c : Char) : IsAscii (literalChar c) := by
  unfold literalChar
  split
  · next letter hs =>
    have hletter := shortEscape?_ascii hs
    simp [IsAscii, hletter]
  · split
    · rw [unitEscapes_eq]
      intro escape he
      obtain ⟨unit, _, hu⟩ := List.mem_flatMap.mp he
      exact unitEscape_ascii unit escape hu
    · next hc =>
      simp only [Bool.or_eq_true, decide_eq_true_eq, not_or, Nat.not_lt] at hc
      simp only [IsAscii, List.mem_singleton, forall_eq]
      omega

/-- A literal holds ASCII characters only, whatever its text is. -/
theorem literalChars_ascii (text : List Char) : IsAscii (literalChars text) := by
  have hbody : IsAscii (literalBody text) := by
    intro c hc
    obtain ⟨source, _, hs⟩ := List.mem_flatMap.mp hc
    exact literalChar_ascii source c hs
  have hquote : IsAscii ['"'] := by simp [IsAscii]
  exact (hquote.append hbody).append hquote

end Literal

end Storyboard.Quotes
