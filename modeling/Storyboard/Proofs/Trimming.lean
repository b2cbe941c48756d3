import Mathlib.Data.List.TakeWhile
import Storyboard.Text.Blank

/-!
# Trimmed texts

A trimmed text is a contiguous part of the text with no character to drop at either end; a text
with no such character at its ends stays as it is, and what is dropped around a text does not
matter to it.
-/

namespace Storyboard.Text

variable {drop : Char → Bool} {text : List Char}

section End

/-- A character that is kept keeps what stands before it. -/
theorem trimEndWhere_keep {c : Char} (hc : drop c = false) (head rest : List Char) :
    trimEndWhere drop (head ++ c :: rest) = head ++ c :: trimEndWhere drop rest := by
  induction head with
  | nil =>
    rw [List.nil_append, List.nil_append, trimEndWhere]
    split
    · next hnil => simp [hc, hnil]
    · rfl
  | cons d head ih =>
    rw [List.cons_append, trimEndWhere, ih]
    split
    · next hnil => simp at hnil
    · rfl

theorem trimEndWhere_isPrefix (drop : Char → Bool) (text : List Char) :
    trimEndWhere drop text <+: text := by
  induction text with
  | nil => exact List.prefix_rfl
  | cons c rest ih =>
    rw [trimEndWhere]
    split
    · split
      · exact List.nil_prefix
      · exact List.prefix_cons_inj c |>.mpr List.nil_prefix
    · exact (List.prefix_cons_inj c).mpr ih

theorem trimEndWhere_getLast? :
    ∀ c ∈ (trimEndWhere drop text).getLast?, drop c = false := by
  induction text with
  | nil => simp [trimEndWhere]
  | cons d rest ih =>
    intro c hc
    rw [trimEndWhere] at hc
    split at hc
    · split at hc
      · simp at hc
      · next hd =>
        obtain rfl : d = c := by simpa using hc
        simpa using hd
    · next kept hkept =>
      refine ih c ?_
      rwa [List.getLast?_cons_of_ne_nil hkept] at hc

theorem exists_trimmed_tail (drop : Char → Bool) (text : List Char) :
    ∃ tail, text = trimEndWhere drop text ++ tail ∧ ∀ c ∈ tail, drop c = true := by
  induction text with
  | nil => exact ⟨[], rfl, by simp⟩
  | cons c rest ih =>
    obtain ⟨tail, hrest, htail⟩ := ih
    rw [trimEndWhere]
    split
    · next hnil =>
      rw [hnil, List.nil_append] at hrest
      subst hrest
      split
      · next hc => exact ⟨c :: rest, rfl, List.forall_mem_cons.mpr ⟨hc, htail⟩⟩
      · exact ⟨rest, rfl, htail⟩
    · exact ⟨tail, congrArg (List.cons c) hrest, htail⟩

/-- A trimmed text is what stands before a tail to drop and ends in nothing to drop. -/
theorem trimEndWhere_eq_iff {bare : List Char} :
    trimEndWhere drop text = bare ↔
      (∀ c ∈ bare.getLast?, drop c = false) ∧
        ∃ tail, text = bare ++ tail ∧ ∀ c ∈ tail, drop c = true := by
  constructor
  · rintro rfl
    exact ⟨trimEndWhere_getLast?, exists_trimmed_tail drop text⟩
  · rintro ⟨hlast, tail, rfl, htail⟩
    rw [trimEndWhere_append drop bare tail htail]
    rcases List.eq_nil_or_concat bare with rfl | ⟨init, c, rfl⟩
    · rfl
    · have hc : drop c = false := hlast c (by simp)
      rw [List.concat_eq_append, trimEndWhere_keep hc]
      rfl

end End

/-- No character at either end of the text is to be dropped. -/
structure BareEnds (drop : Char → Bool) (text : List Char) : Prop where
  head : ∀ c ∈ text.head?, drop c = false
  last : ∀ c ∈ text.getLast?, drop c = false

theorem trimWhere_isInfix (drop : Char → Bool) (text : List Char) : trimWhere drop text <:+: text :=
  (trimEndWhere_isPrefix drop _).isInfix.trans (List.dropWhile_suffix drop).isInfix

theorem trimWhere_bareEnds (drop : Char → Bool) (text : List Char) :
    BareEnds drop (trimWhere drop text) := by
  refine ⟨fun c hc => ?_, trimEndWhere_getLast?⟩
  obtain ⟨kept, hkept⟩ := List.head?_eq_some_iff.mp hc
  obtain ⟨tail, htail⟩ := trimEndWhere_isPrefix drop (text.dropWhile drop)
  have hhead : (text.dropWhile drop).head? = some c := by
    rw [← htail, ← trimWhere, hkept]
    rfl
  have hnot := List.head?_dropWhile_not drop text
  rw [hhead] at hnot
  simpa using hnot

theorem trimWhere_of_bareEnds (h : BareEnds drop text) : trimWhere drop text = text := by
  cases text with
  | nil => rfl
  | cons c rest =>
    have hc : drop c = false := h.head c rfl
    obtain ⟨init, last, hlast⟩ := (List.eq_nil_or_concat (c :: rest)).resolve_left (by simp)
    rw [List.concat_eq_append] at hlast
    have hkept : drop last = false := h.last last (by rw [hlast, List.getLast?_concat]; rfl)
    rw [trimWhere, List.dropWhile_cons_of_neg (by simp [hc]), hlast]
    exact trimEndWhere_keep hkept init []

/-- Characters to drop around a text do not matter. -/
theorem trimWhere_padded {before after : List Char} (hbefore : ∀ c ∈ before, drop c = true)
    (hafter : ∀ c ∈ after, drop c = true) (text : List Char) :
    trimWhere drop (before ++ text ++ after) = trimWhere drop text := by
  rw [trimWhere, trimWhere, List.append_assoc, List.dropWhile_append_of_pos hbefore,
    List.dropWhile_append]
  split
  · next hnil =>
    rw [List.isEmpty_iff] at hnil
    rw [hnil, List.dropWhile_eq_nil_iff.mpr hafter]
  · rw [trimEndWhere_append drop _ after hafter]

theorem dropWhile_ne_nil (h : ∃ c ∈ text, drop c = false) : text.dropWhile drop ≠ [] := by
  rw [Ne, List.dropWhile_eq_nil_iff]
  obtain ⟨c, hc, hkept⟩ := h
  exact fun hall => by simp [hall c hc] at hkept

/-- What stands between two characters that are kept is kept. -/
theorem trimWhere_keep {head : List Char} (hhead : ∃ c ∈ head, drop c = false) {c : Char}
    (hc : drop c = false) (middle rest : List Char) :
    trimWhere drop (head ++ middle ++ c :: rest) =
      head.dropWhile drop ++ middle ++ c :: trimEndWhere drop rest := by
  rw [trimWhere, List.append_assoc, List.dropWhile_append,
    if_neg (by simpa using dropWhile_ne_nil hhead), ← List.append_assoc, trimEndWhere_keep hc]

end Storyboard.Text
