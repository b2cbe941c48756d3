import Storyboard.Proofs.Barriers
import Storyboard.Proofs.Marks
import Storyboard.Proofs.Nesting
import Storyboard.Proofs.Outline

/-!
# Reading the template piece by piece

A reader of the markup carries the word it is in and the depths of the brackets, and what a
text does to it is known: which words and marks it gives, where the reader ends, and that
nothing forbidden begins in it. Texts compose, so numbers of any length are read between
fixed texts, and the literals between the pieces of markup are left to their own texts.
-/

namespace Storyboard.Template

open Decimal (wholeText digitsOf isDigit_digitsOf)
open Quotes
open Marks
open Review (BracketPair bracketPairs Balanced Depths Nests IsMute)

section Bare

variable {first second : String}

/-- What a text of the template shows outside of its strings. -/
def bare (text : String) : List Char := outside (Piece.markup text).tokens

theorem bare_append (h : Closed first) (h' : Closed second) :
    bare (first ++ second) = bare first ++ bare second := by
  obtain ⟨tokens, hl, _⟩ := h.strings
  obtain ⟨tokens', hl', _⟩ := h'.strings
  rw [bare, bare, bare, Piece.tokens, Piece.tokens, Piece.tokens, String.toList_append,
    lex_append hl, hl, hl', Option.map_some, Option.getD_some, Option.getD_some, Option.getD_some,
    outside_append]

theorem bare_digits (n : Nat) : bare (String.ofList (digitsOf n)) = digitsOf n := by
  rw [bare, Piece.tokens, String.toList_ofList,
    lex_plain fun c hc => (plain_digitsOf n c hc).1, Option.getD_some, outside,
    List.filterMap_map]
  exact List.filterMap_some

end Bare

/-- Where a reader stands: in a word, and at depths of brackets. -/
structure Stand where
  word : List Char
  depths : Depths
deriving DecidableEq, Repr

/-- The stand between words at these depths. -/
def between (depths : Depths) : Stand := ⟨[], depths⟩

/-- Read from one stand on, markup gives these words and ends at another one. It closes its
strings, and nothing forbidden begins in it. -/
structure Reads (here : Stand) (text : String) (words : List Lexeme) (there : Stand) : Prop where
  closed : Closed text
  run : run here.word (bare text) = (words, there.word)
  nests : Nests here.depths text.toList there.depths
  mute : IsMute text.toList

section Texts

variable {here middle there : Stand} {depths deep : Depths} {first second : String}
  {text : List Char} {words more : List Lexeme} {found others : List Mark}

theorem Reads.append (h : Reads here first words middle) (h' : Reads middle second more there) :
    Reads here (first ++ second) (words ++ more) there := by
  refine ⟨h.closed.append h'.closed, ?_, ?_, ?_⟩
  · rw [bare_append h.closed h'.closed, run_append, h.run, h'.run]
  · rw [String.toList_append]
    exact h.nests.append h'.nests
  · rw [String.toList_append]
    exact h.mute.append h'.mute

theorem nests_digits (depths : Depths) (n : Nat) : Nests depths (digitsOf n) depths := by
  have hbracket : ∀ pair ∈ bracketPairs, pair.opener.isDigit = false ∧
      pair.closer.isDigit = false := by decide
  intro pair hp
  refine BracketPair.after_spared fun c hc => ?_
  have hdigit := isDigit_digitsOf hc
  constructor
  · rintro rfl
    rw [(hbracket pair hp).1] at hdigit
    contradiction
  · rintro rfl
    rw [(hbracket pair hp).2] at hdigit
    contradiction

theorem reads_whole (here : Stand) (n : Nat) :
    Reads here (wholeText n) [] ⟨here.word ++ digitsOf n, here.depths⟩ := by
  have htext : wholeText n = String.ofList (digitsOf n) := rfl
  have hchars : (wholeText n).toList = digitsOf n := by rw [htext, String.toList_ofList]
  refine ⟨closed_wholeText n, ?_, ?_, ?_⟩
  · rw [htext, bare_digits, run_digits]
  · rw [hchars]
    exact nests_digits here.depths n
  · rw [hchars]
    exact Review.isMute_digits fun _ => isDigit_digitsOf

theorem reads_toString (here : Stand) (n : Nat) :
    Reads here (toString n) [] ⟨here.word ++ digitsOf n, here.depths⟩ := by
  rw [Nat.toString_eq_ofList_toDigits]
  exact reads_whole here n

def isRead (here : Stand) (text : List Char) (words : List Lexeme) (there : Stand) : Bool :=
  isClosed text && run here.word (outside ((lex .code text).getD [])) = (words, there.word) &&
    decide (Nests here.depths text there.depths) && !Review.mayBegin none text

theorem reads_ofList (h : isRead here text words there = true) :
    Reads here (String.ofList text) words there := by
  simp only [isRead, Bool.and_eq_true, decide_eq_true_eq, Bool.not_eq_true'] at h
  obtain ⟨⟨⟨hclosed, hrun⟩, hnests⟩, hmute⟩ := h
  refine ⟨closed_ofList hclosed, ?_, ?_, ?_⟩
  · rw [bare, Piece.tokens, String.toList_ofList]
    exact hrun
  · rw [String.toList_ofList]
    exact hnests
  · rw [String.toList_ofList]
    exact Review.isMute_of_mayBegin hmute

/-- A fixed text that does not go on with a word ends a word of any kind before it. -/
theorem reads_after (word : List Char) (h : isRead (between depths) text words there = true)
    (hc : (outside ((lex .code text).getD [])).head?.any (!isNameChar ·) = true) :
    Reads ⟨word, depths⟩ (String.ofList text) (flush word ++ words) there := by
  have hreads := reads_ofList h
  refine ⟨hreads.closed, ?_, hreads.nests, hreads.mute⟩
  have hbare : bare (String.ofList text) = outside ((lex .code text).getD []) := by
    rw [bare, Piece.tokens, String.toList_ofList]
  have hrun := hreads.run
  rw [hbare] at hrun ⊢
  cases hout : outside ((lex .code text).getD []) with
  | nil => simp [hout] at hc
  | cons c rest =>
    rw [hout] at hrun hc
    have hname : isNameChar c = false := by simpa using hc
    have hstart : (between depths).word = [] := rfl
    rw [hstart] at hrun
    rw [run_flush word hname, hrun]

theorem reads_after_number (n : Nat) (h : isRead (between depths) text words there = true)
    (hc : (outside ((lex .code text).getD [])).head?.any (!isNameChar ·) = true) :
    Reads ⟨digitsOf n, depths⟩ (String.ofList text) (.number n :: words) there := by
  have hreads := reads_after (digitsOf n) h hc
  rwa [flush_digits] at hreads

theorem reads_after_scene (n : Nat) (h : isRead (between depths) text words there = true)
    (hc : (outside ((lex .code text).getD [])).head?.any (!isNameChar ·) = true) :
    Reads ⟨sceneStem ++ digitsOf n, depths⟩ (String.ofList text) (.scene n :: words) there := by
  have hreads := reads_after (sceneStem ++ digitsOf n) h hc
  rwa [flush_scene] at hreads

/-- Read from one stand on, markup gives these marks and ends at another one. -/
def Stages (here : Stand) (text : String) (found : List Mark) (there : Stand) : Prop :=
  ∃ words, Reads here text words there ∧ Gives words found

theorem Stages.append (h : Stages here first found middle)
    (h' : Stages middle second others there) :
    Stages here (first ++ second) (found ++ others) there := by
  obtain ⟨words, hreads, hgives⟩ := h
  obtain ⟨more, hmore, hothers⟩ := h'
  exact ⟨words ++ more, hreads.append hmore, hgives.append hothers⟩

/-- Markup without a name of the stage. -/
abbrev IsQuiet (here : Stand) (text : String) (there : Stand) : Prop :=
  Stages here text [] there

theorem Reads.quiet (h : Reads here first words there)
    (hq : words.all (!·.isWatched) = true) : IsQuiet here first there := by
  refine ⟨words, h, gives_quiet fun lexeme hm => ?_⟩
  have hwatched := List.all_eq_true.mp hq lexeme hm
  simpa using hwatched

def isQuiet (here : Stand) (text : List Char) (there : Stand) : Bool :=
  isRead here text (run here.word (outside ((lex .code text).getD []))).1 there &&
    (run here.word (outside ((lex .code text).getD []))).1.all (!·.isWatched)

theorem quiet_ofList (h : isQuiet here text there = true) :
    IsQuiet here (String.ofList text) there := by
  rw [isQuiet, Bool.and_eq_true] at h
  exact (reads_ofList h.1).quiet h.2

theorem quiet_after_number (n : Nat) (h : isQuiet (between depths) text there = true)
    (hc : (outside ((lex .code text).getD [])).head?.any (!isNameChar ·) = true) :
    IsQuiet ⟨digitsOf n, depths⟩ (String.ofList text) there := by
  rw [isQuiet, Bool.and_eq_true] at h
  refine (reads_after_number n h.1 hc).quiet ?_
  rw [List.all_cons, h.2]
  rfl

theorem stages_intercalate {separator : String} {texts : List String}
    {founds : List (List Mark)} (hs : IsQuiet (between depths) separator (between depths))
    (hempty : IsQuiet (between depths) "" (between depths))
    (h : List.Forall₂ (fun text found => Stages (between depths) text found (between depths)) texts founds) :
    Stages (between depths) (separator.intercalate texts) founds.flatten (between depths) := by
  induction h with
  | nil =>
    rw [String.intercalate_nil]
    exact hempty
  | @cons text found texts founds htext hrest ih =>
    cases hrest with
    | nil =>
      rw [String.intercalate_singleton, List.flatten_cons, List.flatten_nil, List.append_nil]
      exact htext
    | cons hnext hlater =>
      have hjoined := (htext.append hs).append ih
      rw [List.append_nil] at hjoined
      rw [String.intercalate_cons_cons, List.flatten_cons]
      exact hjoined

end Texts

/-- Pieces whose markup gives these marks and in which nothing forbidden begins outside of
literals. They lead from depths to depths if the texts of the literals are balanced. -/
structure Frames (depths : Depths) (pieces : List Piece) (found : List Mark) (deep : Depths) :
    Prop where
  shows : Shows ((markups pieces).flatMap bare) found
  nests : (∀ text ∈ literals pieces, ∀ pair ∈ bracketPairs, Balanced pair text.toList) →
    Nests depths (chars pieces) deep
  mute : ∀ text ∈ markups pieces, IsMute text.toList

namespace Frames

variable {depths middle deep : Depths} {pieces first second : List Piece} {text : String}
  {found others : List Mark}

theorem nil : Frames depths [] [] depths := by
  constructor
  · exact Shows.nil
  · exact fun _ pair _ => rfl
  · exact List.forall_mem_nil _

theorem append (h : Frames depths first found middle) (h' : Frames middle second others deep) :
    Frames depths (first ++ second) (found ++ others) deep := by
  constructor
  · rw [markups_append, List.flatMap_append]
    exact h.shows.append h'.shows
  · intro hbalanced
    rw [literals_append, List.forall_mem_append] at hbalanced
    rw [chars_append]
    exact (h.nests hbalanced.1).append (h'.nests hbalanced.2)
  · rw [markups_append, List.forall_mem_append]
    exact ⟨h.mute, h'.mute⟩

theorem markup (h : Stages (between depths) text found (between middle))
    (h' : Frames middle pieces others deep) :
    Frames depths (.markup text :: pieces) (found ++ others) deep := by
  obtain ⟨words, hreads, hgives⟩ := h
  constructor
  · have hshows : Shows (bare text) found := ⟨words, hreads.run, hgives⟩
    rw [markups_markup, List.flatMap_cons]
    exact hshows.append h'.shows
  · intro hbalanced
    exact hreads.nests.append (h'.nests hbalanced)
  · rw [markups_markup, List.forall_mem_cons]
    exact ⟨hreads.mute, h'.mute⟩

theorem literal (h : Frames depths pieces found deep) :
    Frames depths (.literal text :: pieces) found deep := by
  constructor
  · exact h.shows
  · intro hbalanced
    rw [literals_literal, List.forall_mem_cons] at hbalanced
    exact (Review.nests_literal hbalanced.1 depths).append (h.nests hbalanced.2)
  · exact h.mute

theorem separated {separator : String} {groups : List (List Piece)} {founds : List (List Mark)}
    (hs : IsQuiet (between depths) separator (between depths))
    (h : List.Forall₂ (fun group found => Frames depths group found depths) groups founds) :
    Frames depths (Template.separated separator groups) founds.flatten depths := by
  induction h with
  | nil => exact nil
  | @cons group found groups founds hgroup hrest ih =>
    cases hrest with
    | nil =>
      rw [List.flatten_cons, List.flatten_nil, List.append_nil]
      exact hgroup
    | cons hnext hlater =>
      have hbroken := Frames.markup hs ih
      rw [List.nil_append] at hbroken
      rw [Template.separated, List.flatten_cons]
      · exact hgroup.append hbroken
      · exact List.cons_ne_nil _ _

theorem separated_quiet {separator : String} {groups : List (List Piece)}
    (hs : IsQuiet (between depths) separator (between depths))
    (h : ∀ group ∈ groups, Frames depths group [] depths) :
    Frames depths (Template.separated separator groups) [] depths := by
  have hall : List.Forall₂ (fun group found => Frames depths group found depths) groups
      (groups.map fun _ => []) := by
    rw [List.forall₂_map_right_iff, List.forall₂_same]
    exact h
  have hnone : (groups.map fun _ => ([] : List Mark)).flatten = [] := by simp
  rw [← hnone]
  exact separated hs hall

end Frames

section Forbidden

variable {pieces : List Piece}

/-- In code whose markup is mute a forbidden construct stands in a literal or not at all. -/
theorem somewhere_chars {signature : Review.Signature} (hs : signature ∈ Review.denylist)
    (h : ∀ text ∈ markups pieces, IsMute text.toList) (before : Option Char) :
    Review.somewhere signature.standsAt before (chars pieces) =
      (literals pieces).any fun text => signature.isIn (Json.literalChars text.toList) := by
  -- On the pieces: markup hands the search on, and the quotes of a literal fence it in.
  have hquote := Review.barredBy_quote signature hs
  induction pieces generalizing before with
  | nil => exact hquote.standsAt_nil before
  | cons piece rest ih =>
    cases piece with
    | markup text =>
      rw [markups_markup, List.forall_mem_cons] at h
      have hchars : chars (.markup text :: rest) = text.toList ++ chars rest := rfl
      rw [hchars, h.1 signature hs, ih h.2, literals_markup]
    | literal text =>
      have hchars : chars (.literal text :: rest) =
          '"' :: Json.literalBody text.toList ++ '"' :: chars rest := by
        have hflat : chars (.literal text :: rest) =
          Json.literalChars text.toList ++ chars rest := rfl
        rw [hflat, Json.literalChars, List.append_assoc, List.singleton_append]
      rw [hchars, hquote.somewhere_enclosed, ih h, literals_literal, List.any_cons]
      rfl

theorem mem_forbiddenIssues_chars (h : ∀ text ∈ markups pieces, IsMute text.toList)
    {issue : String} :
    issue ∈ Review.forbiddenIssues (chars pieces) ↔
      ∃ text ∈ literals pieces, issue ∈ Review.forbiddenIssues (Json.literalChars text.toList) := by
  have hin {signature : Review.Signature} (hs : signature ∈ Review.denylist) :
      signature.isIn (chars pieces) = true ↔ ∃ text ∈ literals pieces,
        signature.isIn (Json.literalChars text.toList) = true := by
    rw [Review.Signature.isIn, somewhere_chars hs h, List.any_eq_true]
  simp only [Review.mem_forbiddenIssues]
  constructor
  · rintro ⟨signature, hs, hcode, hissue⟩
    obtain ⟨text, ht, htext⟩ := (hin hs).mp hcode
    exact ⟨text, ht, signature, hs, htext, hissue⟩
  · rintro ⟨text, ht, signature, hs, htext, hissue⟩
    exact ⟨signature, hs, (hin hs).mpr ⟨text, ht, htext⟩, hissue⟩

end Forbidden

end Storyboard.Template
