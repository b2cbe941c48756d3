import Mathlib.Data.List.Infix
import Storyboard.Json.Literal
import Storyboard.Review.Denylist

/-!
# Where signatures stand

A character that no part of a signature has is a barrier: the signature is looked for on
either side of it, and no match straddles it. A text is mute if no signature begins in it,
whatever follows; so in a text cut into mute parts and literals, a signature stands in a
literal or not at all.
-/

namespace Storyboard.Review

open Text

def Piece.lacks (q : Char) : Piece → Bool
  | .word chars => !chars.contains q
  | .blanks => !isBlank q
  | .gap => !isBlank q

section Pieces

variable {q : Char} {pieces : List Piece}

theorem prefix_of_prefix_barred {chars text more : List Char} (hq : q ∉ chars)
    (h : chars <+: text ++ q :: more) : chars <+: text := by
  rcases List.prefix_or_prefix_of_prefix h (List.prefix_append text _) with hp | ⟨tail, rfl⟩
  · exact hp
  rw [List.prefix_append_right_inj, List.prefix_cons_iff] at h
  rcases h with rfl | ⟨rest, rfl, _⟩
  · rw [List.append_nil]
  · exact absurd (List.mem_append_right text List.mem_cons_self) hq

theorem dropWhile_barred (hq : isBlank q = false) (text more : List Char) :
    (text ++ q :: more).dropWhile isBlank = text.dropWhile isBlank ++ q :: more := by
  rw [List.dropWhile_append]
  split
  · next hempty =>
    rw [List.isEmpty_iff] at hempty
    rw [hempty, List.dropWhile_cons_of_neg (by simp [hq]), List.nil_append]
  · rfl

/-- Pieces stand before a barrier as they do at the end of the text, and leave the barrier to
what follows. -/
theorem afterPieces?_barred (h : ∀ piece ∈ pieces, piece.lacks q = true)
    (text more : List Char) :
    afterPieces? pieces (text ++ q :: more) = (afterPieces? pieces text).map (· ++ q :: more) := by
  -- On the pieces: each takes as much of the text before the barrier, whatever comes after it.
  induction pieces generalizing text with
  | nil => rfl
  | cons piece pieces ih =>
    rw [List.forall_mem_cons] at h
    obtain ⟨hpiece, hpieces⟩ := h
    cases piece with
    | word chars =>
      have hq : q ∉ chars := by simpa [Piece.lacks] using hpiece
      have hiff : chars <+: text ++ q :: more ↔ chars <+: text :=
        ⟨prefix_of_prefix_barred hq, fun hp => hp.trans (List.prefix_append text _)⟩
      simp only [afterPieces?, List.isPrefixOf_iff_prefix, hiff]
      split
      · next hp =>
        obtain ⟨rest, rfl⟩ := hp
        rw [List.append_assoc, List.drop_left, List.drop_left, ih hpieces]
      · rfl
    | blanks =>
      have hq : isBlank q = false := by simpa [Piece.lacks] using hpiece
      rw [afterPieces?, afterPieces?, dropWhile_barred hq, ih hpieces]
    | gap =>
      have hq : isBlank q = false := by simpa [Piece.lacks] using hpiece
      rw [afterPieces?, afterPieces?, dropWhile_barred hq, ih hpieces]
      cases text with
      | nil => simp [hq]
      | cons c rest =>
        rw [List.cons_append, List.head?_cons, List.head?_cons]
        split <;> rfl

end Pieces

/-- A word character stands before no construct. -/
theorem Margin.noWordChar_of_excludes {margin : Margin} {c : Char}
    (h : margin.excludes c = false) : isWordChar c = false := by
  cases margin with
  | word => exact h
  | member =>
    simp only [excludes, Bool.or_eq_false_iff] at h
    exact h.1.1

namespace Signature

/-- The characters that the signature begins with. -/
def opening (signature : Signature) : List Char :=
  match signature.pieces with
  | .word chars :: _ => chars
  | _ => []

/-- The signature has an opening, and it has no place for `q`. -/
structure BarredBy (signature : Signature) (q : Char) : Prop where
  opens : signature.opening ≠ []
  margin : signature.margin.excludes q = false
  pieces : ∀ piece ∈ signature.pieces, piece.lacks q = true

variable {signature : Signature} {before : Option Char} {c q : Char} {text : List Char}

theorem opening_prefix_of_standsAt (h : signature.standsAt before text = true) :
    signature.opening <+: text := by
  rw [standsAt, Bool.and_eq_true] at h
  unfold opening
  split
  · next chars pieces hpieces =>
    rw [hpieces, afterPieces?] at h
    by_cases hp : chars.isPrefixOf text = true
    · exact List.isPrefixOf_iff_prefix.mp hp
    · rw [if_neg hp] at h
      cases h.2
  · exact List.nil_prefix

theorem margin_of_standsAt (h : signature.standsAt before text = true) :
    before.any signature.margin.excludes = false := by
  rw [standsAt, Bool.and_eq_true, Bool.not_eq_true'] at h
  exact h.1

/-- A place after a character that may stand there is like one at the beginning. -/
theorem somewhere_after (hq : signature.margin.excludes q = false) (text : List Char) :
    somewhere signature.standsAt (some q) text = somewhere signature.standsAt none text := by
  cases text <;> simp [somewhere, standsAt, hq]

namespace BarredBy

theorem notMem_opening (h : signature.BarredBy q) : q ∉ signature.opening := by
  unfold opening
  split
  · next chars pieces hpieces =>
    have hlacks := h.pieces (.word chars)
    rw [hpieces] at hlacks
    simpa [Piece.lacks] using hlacks List.mem_cons_self
  · exact List.not_mem_nil

theorem standsAt_nil (h : signature.BarredBy q) (before : Option Char) :
    signature.standsAt before [] = false := by
  by_contra hstands
  rw [Bool.not_eq_false] at hstands
  exact h.opens (List.prefix_nil.mp (opening_prefix_of_standsAt hstands))

theorem standsAt_barrier (h : signature.BarredBy q) (before : Option Char) (rest : List Char) :
    signature.standsAt before (q :: rest) = false := by
  by_contra hstands
  rw [Bool.not_eq_false] at hstands
  rcases List.prefix_cons_iff.mp (opening_prefix_of_standsAt hstands) with hnil | ⟨tail, hcons, _⟩
  · exact h.opens hnil
  · exact h.notMem_opening (hcons ▸ List.mem_cons_self)

theorem standsAt_barred (h : signature.BarredBy q) (before : Option Char)
    (text more : List Char) :
    signature.standsAt before (text ++ q :: more) = signature.standsAt before text := by
  rw [standsAt, standsAt, afterPieces?_barred h.pieces]
  cases afterPieces? signature.pieces text with
  | none => rfl
  | some rest => cases rest <;> simp [Margin.noWordChar_of_excludes h.margin]

/-- No match straddles the barrier. -/
theorem somewhere_barred (h : signature.BarredBy q) (before : Option Char)
    (text more : List Char) :
    somewhere signature.standsAt before (text ++ q :: more) =
      (somewhere signature.standsAt before text || somewhere signature.standsAt none more) := by
  -- At each place before the barrier a match is decided by what stands up to the barrier.
  induction text generalizing before with
  | nil =>
    rw [List.nil_append, somewhere, somewhere, h.standsAt_barrier, h.standsAt_nil,
      somewhere_after h.margin]
  | cons c text ih =>
    have hplace := h.standsAt_barred before (c :: text) more
    rw [List.cons_append] at hplace
    rw [List.cons_append, somewhere, somewhere, hplace, ih, Bool.or_assoc]

/-- A text between two barriers is judged alone. -/
theorem somewhere_enclosed (h : signature.BarredBy q) (before : Option Char)
    (text more : List Char) :
    somewhere signature.standsAt before (q :: text ++ q :: more) =
      (signature.isIn (q :: text ++ [q]) || somewhere signature.standsAt none more) := by
  have hopen : somewhere signature.standsAt before (q :: text) =
      somewhere signature.standsAt none (q :: text) := by
    rw [somewhere, somewhere, h.standsAt_barrier, h.standsAt_barrier]
  have hclose : somewhere signature.standsAt none [] = false := h.standsAt_nil none
  rw [h.somewhere_barred, isIn, h.somewhere_barred, hopen, hclose, Bool.or_false]

end BarredBy

/-- The character before what follows a text. -/
def lastOf (before : Option Char) : List Char → Option Char
  | [] => before
  | c :: rest => lastOf (some c) rest

theorem lastOf_append (first second : List Char) :
    lastOf before (first ++ second) = lastOf (lastOf before first) second := by
  induction first generalizing before with
  | nil => rfl
  | cons c first ih => exact ih

end Signature

section Denylist

/-- A quote is a barrier to every forbidden construct. -/
theorem barredBy_quote : ∀ signature ∈ denylist, signature.BarredBy '"' := by
  have hopens : ∀ signature ∈ denylist, signature.opening ≠ [] := by decide
  have hmargin : ∀ signature ∈ denylist, signature.margin.excludes '"' = false := by decide
  have hpieces : ∀ signature ∈ denylist, ∀ piece ∈ signature.pieces, piece.lacks '"' = true := by
    decide
  exact fun signature hs => ⟨hopens signature hs, hmargin signature hs, hpieces signature hs⟩

/-- No forbidden construct begins in the text, whatever stands around it. -/
def IsMute (text : List Char) : Prop :=
  ∀ signature ∈ denylist, ∀ before more, somewhere signature.standsAt before (text ++ more) =
    somewhere signature.standsAt (Signature.lastOf before text) more

theorem IsMute.append {first second : List Char} (h : IsMute first) (h' : IsMute second) :
    IsMute (first ++ second) := by
  intro signature hs before more
  rw [List.append_assoc, h signature hs, h' signature hs, Signature.lastOf_append]

def openings : List (List Char) := [
  ['f', 'e', 't'], ['X', 'M', 'L'], ['W', 'e', 'b'], ['E', 'v', 'e'], ['e', 'v', 'a'],
  ['n', 'e', 'w'], ['r', 'e', 'q'], ['i', 'm', 'p'], ['p', 'r', 'o'], ['f', 's', '.'],
  ['c', 'h', 'i'], ['_', '_', 'd'], ['_', '_', 'f'], ['g', 'l', 'o'], ['w', 'i', 'n'],
  ['d', 'o', 'c'], ['n', 'a', 'v'], ['l', 'o', 'c'], ['s', 'e', 's'], ['i', 'n', 'd'],
  ['B', 'u', 'f'], ['S', 'e', 'r'], ['t', 'h', 'i'], ['O', 'b', 'j'], ['a', 'r', 'g']]

theorem take_opening_mem : ∀ signature ∈ denylist, signature.opening.take 3 ∈ openings := by
  decide

/-- A text that begins so may go on to a forbidden construct at its head. -/
def mayOpen (text : List Char) : Bool :=
  openings.any fun opening => opening.isPrefixOf text || text.isPrefixOf opening

/-- A forbidden construct may begin somewhere in a text that goes on from here. -/
def mayBegin : Option Char → List Char → Bool
  | _, [] => false
  | before, c :: rest => !before.any isWordChar && mayOpen (c :: rest) || mayBegin (some c) rest

variable {signature : Signature} {text : List Char}

theorem mayOpen_of_standsAt (hs : signature ∈ denylist) {before : Option Char} {more : List Char}
    (h : signature.standsAt before (text ++ more) = true) :
    mayOpen text = true ∧ before.any isWordChar = false := by
  constructor
  · have htake := (List.take_prefix 3 signature.opening).trans (Signature.opening_prefix_of_standsAt h)
    refine List.any_eq_true.mpr ⟨_, take_opening_mem signature hs, ?_⟩
    rw [Bool.or_eq_true, List.isPrefixOf_iff_prefix, List.isPrefixOf_iff_prefix]
    exact List.prefix_or_prefix_of_prefix htake (List.prefix_append text more)
  · have hmargin := Signature.margin_of_standsAt h
    cases before with
    | none => rfl
    | some c =>
      exact Margin.noWordChar_of_excludes hmargin

theorem isMute_of_mayBegin (h : mayBegin none text = false) : IsMute text := by
  intro signature hs before more
  -- A character before the text can only stand in the way of a construct at its head.
  have hbefore : mayBegin before text = false := by
    cases text with
    | nil => rfl
    | cons c rest =>
      rw [mayBegin, Bool.or_eq_false_iff] at h ⊢
      have hopen : mayOpen (c :: rest) = false := by simpa using h.1
      rw [hopen, Bool.and_false]
      exact ⟨rfl, h.2⟩
  clear h
  induction text generalizing before with
  | nil => rfl
  | cons c rest ih =>
    rw [mayBegin, Bool.or_eq_false_iff] at hbefore
    have hstands : signature.standsAt before (c :: rest ++ more) = false := by
      by_contra hstands
      rw [Bool.not_eq_false] at hstands
      obtain ⟨hopen, hmargin⟩ := mayOpen_of_standsAt hs hstands
      simp [hopen, hmargin] at hbefore
    rw [List.cons_append] at hstands
    rw [List.cons_append, somewhere, hstands, Bool.false_or, ih (some c) hbefore.2]
    rfl

theorem isMute_digits (h : ∀ c ∈ text, c.isDigit = true) : IsMute text := by
  have hletter : ∀ opening ∈ openings, opening.head?.any (!·.isDigit) = true := by decide
  have hopen {c : Char} (hc : c.isDigit = true) (rest : List Char) :
      mayOpen (c :: rest) = false := by
    rw [mayOpen, List.any_eq_false]
    intro opening ho
    have hfirst := hletter opening ho
    cases opening with
    | nil => contradiction
    | cons d tail =>
      have hne : d ≠ c := by
        rintro rfl
        simp [hc] at hfirst
      simp [hne, hne.symm]
  refine isMute_of_mayBegin ?_
  suffices hall : ∀ before, mayBegin before text = false from hall none
  induction text with
  | nil => exact fun before => rfl
  | cons c rest ih =>
    rw [List.forall_mem_cons] at h
    intro before
    rw [mayBegin, hopen h.1, ih h.2, Bool.and_false]
    rfl

theorem mem_forbiddenIssues {code : List Char} {issue : String} :
    issue ∈ forbiddenIssues code ↔
      ∃ signature ∈ denylist, signature.isIn code = true ∧
        s!"Forbidden pattern: {signature.label}" = issue := by
  simp only [forbiddenIssues, forbiddenLabels, List.map_map, List.mem_map, List.mem_filter,
    Function.comp_apply, and_assoc]

end Denylist

end Storyboard.Review
