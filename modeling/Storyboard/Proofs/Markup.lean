import Storyboard.Proofs.Quotes
import Storyboard.Proofs.Results
import Storyboard.Template

/-!
# The markup of the template

Each piece of markup closes the strings that it opens, whatever numbers enter it, and
those strings are a few of the template's own. So the code of the template is read piece
by piece, and a literal between two pieces of markup is one string.
-/

namespace Storyboard.Template

open Decimal (wholeText digitsOf isDigit_digitsOf)
open Quotes

/-- The strings of the template itself. -/
def ownStrings : List String :=
  ["#ffffff", "0 2px 20px rgba(0,0,0,0.8)", "#94a3b8", "translateY(", "px)"]

/-- ASCII text that closes each string it opens, all of them strings of the template. -/
structure Closed (markup : String) : Prop where
  ascii : IsAscii markup.toList
  strings : ∃ tokens, lex .code markup.toList = some tokens ∧
    ∀ body ∈ strings tokens, String.ofList body ∈ ownStrings

/-- Decides `Closed` by reading the text. -/
def isClosed (text : List Char) : Bool :=
  text.all (fun c => c.toNat < 0x80) && (lex .code text).any fun tokens =>
    (strings tokens).all fun body => String.ofList body ∈ ownStrings

theorem closed_ofList {text : List Char} (h : isClosed text = true) :
    Closed (String.ofList text) := by
  simp only [isClosed, Bool.and_eq_true, List.all_eq_true, decide_eq_true_eq,
    Option.any_eq_true] at h
  obtain ⟨hascii, tokens, hl, hs⟩ := h
  constructor
  · rw [String.toList_ofList]
    exact hascii
  · rw [String.toList_ofList]
    exact ⟨tokens, hl, hs⟩

theorem Closed.append {first second : String} (h₁ : Closed first) (h₂ : Closed second) :
    Closed (first ++ second) := by
  obtain ⟨tokens₁, hl₁, hs₁⟩ := h₁.strings
  obtain ⟨tokens₂, hl₂, hs₂⟩ := h₂.strings
  constructor
  · rw [String.toList_append]
    exact h₁.ascii.append h₂.ascii
  · refine ⟨tokens₁ ++ tokens₂, ?_, ?_⟩
    · rw [String.toList_append, lex_append hl₁, hl₂, Option.map_some]
    · intro body hb
      rw [strings_append, List.mem_append] at hb
      exact hb.elim (hs₁ body) (hs₂ body)

theorem closed_of_plain {text : List Char} (h : ∀ c ∈ text, c ≠ '"' ∧ c.toNat < 0x80) :
    Closed (String.ofList text) := by
  constructor
  · rw [String.toList_ofList]
    exact fun c hc => (h c hc).2
  · refine ⟨text.map .plain, ?_, ?_⟩
    · rw [String.toList_ofList]
      exact lex_plain fun c hc => (h c hc).1
    · rw [strings_plain]
      simp

theorem plain_of_isDigit {c : Char} (h : c.isDigit = true) : c ≠ '"' ∧ c.toNat < 0x80 := by
  simp only [Char.isDigit, Bool.and_eq_true, decide_eq_true_eq] at h
  constructor
  · rintro rfl
    simp at h
  · have hle : c.toNat ≤ 57 := h.2
    omega

theorem plain_digitsOf (n : Nat) : ∀ c ∈ digitsOf n, c ≠ '"' ∧ c.toNat < 0x80 := fun _ hc =>
  plain_of_isDigit (isDigit_digitsOf hc)

theorem closed_wholeText (n : Int) : Closed (wholeText n) := by
  cases n with
  | ofNat n => exact closed_of_plain (plain_digitsOf n)
  | negSucc n =>
    refine closed_of_plain ?_
    rw [List.forall_mem_cons]
    exact ⟨by decide, plain_digitsOf (n + 1)⟩

theorem closed_toString (n : Nat) : Closed (toString n) := by
  rw [Nat.toString_eq_ofList_toDigits]
  exact closed_of_plain (plain_digitsOf n)

theorem closed_ite {p : Prop} [Decidable p] {first second : String} (h₁ : Closed first)
    (h₂ : Closed second) : Closed (if p then first else second) := by
  split
  · exact h₁
  · exact h₂

theorem closed_intercalate {separator : String} {texts : List String} (hs : Closed separator)
    (h : ∀ text ∈ texts, Closed text) : Closed (separator.intercalate texts) := by
  induction texts with
  | nil =>
    rw [String.intercalate_nil]
    exact closed_ofList (by decide)
  | cons text rest ih =>
    rw [List.forall_mem_cons] at h
    cases rest with
    | nil =>
      rw [String.intercalate_singleton]
      exact h.1
    | cons next rest =>
      rw [String.intercalate_cons_cons]
      exact (h.1.append hs).append (ih h.2)

/-- Markup is closed; a literal is closed by itself. -/
def Piece.Closed : Piece → Prop
  | .markup text => Template.Closed text
  | .literal _ => True

theorem closed_separated {separator : String} {groups : List (List Piece)}
    (hs : Closed separator) (h : ∀ group ∈ groups, ∀ piece ∈ group, piece.Closed) :
    ∀ piece ∈ separated separator groups, piece.Closed := by
  induction groups with
  | nil => simp [separated]
  | cons group rest ih =>
    rw [List.forall_mem_cons] at h
    cases rest with
    | nil => exact h.1
    | cons next rest =>
      rw [separated, List.forall_mem_append, List.forall_mem_cons]
      · exact ⟨h.1, hs, ih h.2⟩
      · simp

section Constants

theorem closed_headlineStyle : Closed headlineStyle := by
  unfold headlineStyle
  exact closed_ofList (by decide)

theorem closed_shadowStyle : Closed shadowStyle := closed_ofList (by decide)

theorem closed_subheadStyle : Closed subheadStyle := closed_ofList (by decide)

theorem closed_bulletStyle : Closed bulletStyle := closed_ofList (by decide)

theorem closed_sceneFoot : Closed sceneFoot := closed_ofList (by decide)

theorem closed_preamble : Closed preamble := by
  unfold preamble
  repeat' with_reducible apply Closed.append
  all_goals exact closed_ofList (by decide)

end Constants

section Scenes

variable {indent style text tint : String} {delay : Int} {overImage : Bool}

theorem closed_fadingText (hi : Closed indent) (hs : Closed style) :
    ∀ piece ∈ fadingText indent delay style text, piece.Closed := by
  have hfoot : Closed "\x7d</FadeUp>" := closed_ofList (by decide)
  simp only [fadingText, List.forall_mem_cons, Piece.Closed]
  refine ⟨?_, trivial, hfoot, List.forall_mem_nil _⟩
  repeat' with_reducible apply Closed.append
  all_goals first
    | with_reducible first | exact hi | exact hs | exact closed_wholeText _
    | exact closed_ofList (by decide)

theorem closed_headline (hi : Closed indent) :
    ∀ piece ∈ headline indent overImage text, piece.Closed := by
  have hshadow : Closed (if overImage = true then shadowStyle else "") :=
    closed_ite closed_shadowStyle (closed_ofList (by decide))
  simp only [headline, List.forall_mem_cons, Piece.Closed]
  refine ⟨?_, trivial, ?_, List.forall_mem_nil _⟩ <;>
  · repeat' with_reducible apply Closed.append
    all_goals first
      | with_reducible first
        | exact hi | exact hshadow | exact closed_headlineStyle | exact closed_wholeText _
      | exact closed_ofList (by decide)

theorem closed_bullets (hi : Closed indent) (texts : List String) :
    ∀ group ∈ bullets indent delay texts, ∀ piece ∈ group, piece.Closed := by
  induction texts generalizing delay with
  | nil => exact List.forall_mem_nil _
  | cons bullet rest ih =>
    rw [bullets, List.forall_mem_cons]
    exact ⟨closed_fadingText hi closed_bulletStyle, ih⟩

theorem closed_sceneTexts (hi : Closed indent) (text : SceneText) :
    ∀ piece ∈ sceneTexts indent overImage text, piece.Closed := by
  refine closed_separated (closed_ofList (by decide)) ?_
  rw [List.cons_append, List.forall_mem_cons, List.forall_mem_append]
  refine ⟨closed_headline hi, ?_, closed_bullets hi _⟩
  split
  · exact List.forall_mem_nil _
  · rw [List.forall_mem_singleton]
    exact closed_fadingText hi closed_subheadStyle

theorem closed_sceneHead (segment : Segment) : Closed (sceneHead segment) := by
  unfold sceneHead
  have hexit : Closed (if segment.isLast = true then ""
      else "  const \x7b op, y \x7d = useExit(" ++ wholeText (exitStart segment) ++ ", " ++
        wholeText segment.frames ++ ");\n") := by
    refine closed_ite (closed_ofList (by decide)) ?_
    repeat' with_reducible apply Closed.append
    all_goals first
      | with_reducible exact closed_wholeText _
      | exact closed_ofList (by decide)
  repeat' with_reducible apply Closed.append
  all_goals first
    | with_reducible first | exact hexit | exact closed_toString _
    | exact closed_ofList (by decide)

theorem closed_opacity (segment : Segment) : Closed (opacity segment) :=
  closed_ite (closed_ofList (by decide)) (closed_ofList (by decide))

theorem closed_shift (segment : Segment) : Closed (shift segment) :=
  closed_ite (closed_ofList (by decide)) (closed_ofList (by decide))

theorem closed_imageScene (segment : Segment) :
    ∀ piece ∈ imageScene segment, piece.Closed := by
  have hindent : Closed "        " := closed_ofList (by decide)
  simp only [imageScene, List.cons_append, List.forall_mem_cons, List.forall_mem_append,
    Piece.Closed]
  refine ⟨?_, closed_sceneTexts hindent _, ?_, List.forall_mem_nil _⟩ <;>
  · repeat' with_reducible apply Closed.append
    all_goals first
      | with_reducible first
        | exact closed_sceneHead _ | exact closed_sceneFoot | exact closed_opacity _
        | exact closed_shift _ | exact closed_toString _
      | exact closed_ofList (by decide)

theorem closed_textScene (segment : Segment) :
    ∀ piece ∈ textScene tint segment, piece.Closed := by
  have hindent : Closed "      " := closed_ofList (by decide)
  have hopened : Closed "\x7d>\n" := closed_ofList (by decide)
  simp only [textScene, List.cons_append, List.forall_mem_cons, List.forall_mem_append,
    Piece.Closed]
  refine ⟨?_, trivial, hopened, closed_sceneTexts hindent _, ?_, List.forall_mem_nil _⟩ <;>
  · repeat' with_reducible apply Closed.append
    all_goals first
      | with_reducible first
        | exact closed_sceneHead _ | exact closed_sceneFoot | exact closed_opacity _
        | exact closed_shift _ | exact closed_toString _
      | exact closed_ofList (by decide)

end Scenes

section Whole

variable {palette : Palette} {imageCount : Nat} {hasAudio : Bool} {segments : List Segment}

theorem closed_sceneDefinition (segment : Segment) :
    ∀ piece ∈ sceneDefinition palette imageCount segment, piece.Closed := by
  unfold sceneDefinition
  split
  · exact closed_imageScene segment
  · exact closed_textScene segment

theorem closed_audioSequence (frames : Int) : Closed (audioSequence frames) := by
  unfold audioSequence
  repeat' with_reducible apply Closed.append
  all_goals first
    | with_reducible exact closed_wholeText _
    | exact closed_ofList (by decide)

theorem closed_sceneSequence (segment : Segment) : Closed (sceneSequence segment) := by
  unfold sceneSequence
  repeat' with_reducible apply Closed.append
  all_goals first
    | with_reducible first | exact closed_wholeText _ | exact closed_toString _
    | exact closed_ofList (by decide)

theorem closed_sequences : ∀ text ∈ sequences hasAudio segments, Closed text := by
  unfold sequences
  rw [List.forall_mem_append]
  constructor
  · split
    · rw [List.forall_mem_singleton]
      exact closed_audioSequence _
    · exact List.forall_mem_nil _
  · rw [List.forall_mem_map]
    exact fun segment _ => closed_sceneSequence segment

/-- Every piece of the code of the template is closed. -/
theorem closed_pieces :
    ∀ piece ∈ pieces palette imageCount hasAudio segments, piece.Closed := by
  have hbreak : Closed "\n" := closed_ofList (by decide)
  have hdefinitions : ∀ piece ∈ separated "\n" (segments.map (sceneDefinition palette imageCount)),
      piece.Closed := by
    refine closed_separated hbreak ?_
    rw [List.forall_mem_map]
    exact fun segment _ => closed_sceneDefinition segment
  simp only [pieces, List.cons_append, List.forall_mem_cons, List.forall_mem_append, Piece.Closed]
  refine ⟨closed_preamble.append hbreak, hdefinitions, closed_ofList (by decide), trivial,
    ?_, List.forall_mem_nil _⟩
  repeat' with_reducible apply Closed.append
  all_goals first
    | with_reducible exact closed_intercalate hbreak closed_sequences
    | exact closed_ofList (by decide)

end Whole

section Pieces

variable {pieces : List Piece}

theorem chars_ascii (h : ∀ piece ∈ pieces, piece.Closed) : IsAscii (chars pieces) := by
  intro c hc
  obtain ⟨piece, hp, hm⟩ := List.mem_flatMap.mp hc
  cases piece with
  | markup text => exact (h _ hp).ascii c hm
  | literal text => exact literalChars_ascii text.toList c hm

/-- The tokens of a piece: a literal is one string. -/
def Piece.tokens : Piece → List Token
  | .markup text => (lex .code text.toList).getD []
  | .literal text => [.quoted (Json.literalBody text.toList)]

theorem lex_piece {piece : Piece} (h : piece.Closed) :
    lex .code piece.chars = some piece.tokens := by
  cases piece with
  | markup text =>
    obtain ⟨tokens, hl, _⟩ := h.strings
    rw [Piece.chars, Piece.tokens, hl, Option.getD_some]
  | literal text => exact lex_literalChars text.toList

/-- Closed pieces are read one after the other. -/
theorem lex_chars (h : ∀ piece ∈ pieces, piece.Closed) :
    lex .code (chars pieces) = some (pieces.flatMap Piece.tokens) := by
  induction pieces with
  | nil => rfl
  | cons piece rest ih =>
    rw [List.forall_mem_cons] at h
    have hchars : chars (piece :: rest) = piece.chars ++ chars rest := List.flatMap_cons
    rw [hchars, lex_append (lex_piece h.1), ih h.2, List.flatMap_cons, Option.map_some]

end Pieces

section Code

variable {script : Script} {imageUrls : List String} {narration : Option Narration} {fps : Int}

theorem code_of_timeline {segments : List Segment} (h : script.timeline fps = .ok segments) :
    code script imageUrls narration fps = .ok (String.ofList (chars
      (pieces script.palette imageUrls.length narration.isSome segments))) := by
  rw [code, h]
  rfl

theorem timeline_of_code {result : String} (h : code script imageUrls narration fps = .ok result) :
    ∃ segments, script.timeline fps = .ok segments ∧ result = String.ofList (chars
      (pieces script.palette imageUrls.length narration.isSome segments)) := by
  obtain ⟨segments, hs, he⟩ := Results.bind_ok_iff.mp h
  exact ⟨segments, hs, (Except.ok.inj he).symm⟩

/-- The code of the template has no lone half: it is ASCII, whatever its texts are. -/
theorem code_hasHalf {result : String} (h : code script imageUrls narration fps = .ok result) :
    Text.hasHalf result = false := by
  obtain ⟨segments, _, rfl⟩ := timeline_of_code h
  rw [Text.hasHalf, String.toList_ofList, List.any_eq_false]
  intro c hc
  have hascii : c.toNat < 0x80 := chars_ascii closed_pieces c hc
  rw [Text.keepsHalf, Text.halfOf?_eq_none (by omega)]
  decide

theorem code_ne_empty {result : String} (h : code script imageUrls narration fps = .ok result) :
    result ≠ "" := by
  obtain ⟨segments, _, rfl⟩ := timeline_of_code h
  have hbreak : '\n' ∈ chars
      (pieces script.palette imageUrls.length narration.isSome segments) := by
    refine List.mem_flatMap.mpr ⟨.markup (preamble ++ "\n"), List.mem_cons_self, ?_⟩
    rw [Piece.chars, String.toList_append]
    exact List.mem_append_right _ List.mem_cons_self
  intro he
  rw [String.ofList_eq_empty_iff] at he
  rw [he] at hbreak
  cases hbreak

end Code

end Storyboard.Template
