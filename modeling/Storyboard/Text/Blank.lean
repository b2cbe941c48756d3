import Storyboard.Text.Ranges

/-!
# Blank characters and trimming

`isSpace` is the Unicode property White_Space. `isBlank` also counts the four
information separators U+001C to U+001F. Neither counts the zero-width space
or the byte order mark. Text is trimmed of blank characters at either end;
what remains is a contiguous part of it.
-/

namespace Storyboard.Text

/-- The Unicode property White_Space. -/
def spaceRanges : List (Nat × Nat) := [
  (0x09, 0x0D), (0x20, 0x20), (0x85, 0x85), (0xA0, 0xA0), (0x1680, 0x1680), (0x2000, 0x200A),
  (0x2028, 0x2029), (0x202F, 0x202F), (0x205F, 0x205F), (0x3000, 0x3000)]

/-- `c` has the property White_Space. -/
def isSpace (c : Char) : Bool := inRanges spaceRanges c

/-- `c` is white space or an information separator. -/
def isBlank (c : Char) : Bool := isSpace c || (0x1C ≤ c.toNat && c.toNat ≤ 0x1F)

/-- The text without its longest tail of characters in `drop`. -/
def trimEndWhere (drop : Char → Bool) : List Char → List Char
  | [] => []
  | c :: rest =>
    match trimEndWhere drop rest with
    | [] => if drop c then [] else [c]
    | kept => c :: kept

/-- The text without its longest head and tail of characters in `drop`. -/
def trimWhere (drop : Char → Bool) (text : List Char) : List Char :=
  trimEndWhere drop (text.dropWhile drop)

/-- The text without blank characters at either end. -/
def trimChars (text : List Char) : List Char := trimWhere isBlank text

/-- The text without blank characters at either end. -/
def trim (text : String) : String := String.ofList (trimChars text.toList)

/-- The text without its tail of characters in `drop`. -/
def trimEnd (drop : Char → Bool) (text : String) : String :=
  String.ofList (trimEndWhere drop text.toList)

theorem isBlank_of_isWhitespace {c : Char} (h : c.isWhitespace = true) : isBlank c = true := by
  simp only [Char.isWhitespace, Bool.or_eq_true, decide_eq_true_eq] at h
  rcases h with ((rfl | rfl) | rfl) | rfl <;> decide

theorem trimEndWhere_append (drop : Char → Bool) (text tail : List Char)
    (h : ∀ c ∈ tail, drop c = true) : trimEndWhere drop (text ++ tail) = trimEndWhere drop text := by
  induction text with
  | nil =>
    induction tail with
    | nil => rfl
    | cons c rest ih =>
      have ih := ih fun d hd => h d (List.mem_cons_of_mem _ hd)
      simp only [List.nil_append, trimEndWhere] at ih ⊢
      rw [ih]
      simp [h c]
  | cons c rest ih => simp only [List.cons_append, trimEndWhere, ih]

end Storyboard.Text
