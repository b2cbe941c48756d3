import Storyboard.Proofs.Layers
import Storyboard.Proofs.Staging

/-!
# The verdict on the template's code

The code of the template has the shape of a composition, whatever the texts of the script
are. Its brackets are balanced if those of the texts are, and a construct is forbidden in it
exactly if it is forbidden in the literal of a text.
-/

namespace Storyboard

namespace Template

open Text
open Marks (Mark)
open Review (Layer Balanced bracketPairs bracketIssues somewhere returnsName longestStub
  leastLength)

section Lengths

theorem length_chars_cons (piece : Piece) (rest : List Piece) :
    (chars (piece :: rest)).length = piece.chars.length + (chars rest).length := by
  rw [chars, List.flatMap_cons, List.length_append, chars]

theorem length_markup (text : String) : (Piece.markup text).chars.length = text.length :=
  String.length_toList

theorem length_chars_append (first second : List Piece) :
    (chars (first ++ second)).length = (chars first).length + (chars second).length := by
  rw [chars_append, List.length_append]

theorem length_chars_separated (separator : String) (group : List Piece)
    (rest : List (List Piece)) :
    (chars group).length ≤ (chars (separated separator (group :: rest))).length := by
  cases rest with
  | nil => exact Nat.le_refl _
  | cons next rest =>
    rw [separated, length_chars_append]
    · exact Nat.le_add_right _ _
    · exact List.cons_ne_nil _ _

theorem length_chars_headline (indent : String) (overImage : Bool) (text : String) :
    130 ≤ (chars (headline indent overImage text)).length := by
  have hstyle : headlineStyle.length = 80 := by decide
  have hopen : "<FadeUp delay=\x7b".length = 15 := by decide
  have hbody : "\x7d>\n".length = 3 := by decide
  have hdiv : "  <div style=\x7b\x7b ".length = 16 := by decide
  have hclose : "\x7d</div>\n".length = 8 := by decide
  have hfoot : "</FadeUp>".length = 9 := by decide
  unfold headline
  simp only [length_chars_cons, length_markup, String.length_append]
  omega

theorem length_chars_sceneTexts (indent : String) (overImage : Bool) (text : SceneText) :
    130 ≤ (chars (sceneTexts indent overImage text)).length := by
  have hheadline := length_chars_headline indent overImage text.headline
  rw [sceneTexts, List.cons_append]
  exact hheadline.trans (length_chars_separated _ _ _)

theorem length_sceneHead (segment : Segment) : 33 ≤ (sceneHead segment).length := by
  have hname : "const Scene".length = 11 := by decide
  have harrow : " = () => \x7b\n".length = 11 := by decide
  have hreturn : "  return (\n".length = 11 := by decide
  have hdefines : s!"const Scene{segment.index} = () => \x7b\n" =
      "const Scene" ++ toString segment.index ++ " = () => \x7b\n" := rfl
  unfold sceneHead
  rw [hdefines]
  simp only [String.length_append]
  omega

theorem length_chars_sceneDefinition (palette : Palette) (imageCount : Nat) (segment : Segment) :
    163 ≤ (chars (sceneDefinition palette imageCount segment)).length := by
  have hhead := length_sceneHead segment
  unfold sceneDefinition
  split
  · have htexts := length_chars_sceneTexts "        " true segment.scene.text
    unfold imageScene
    simp only [List.cons_append, length_chars_cons, length_markup, length_chars_append,
      String.length_append]
    omega
  · have htexts := length_chars_sceneTexts "      " false segment.scene.text
    unfold textScene
    simp only [List.cons_append, length_chars_cons, length_markup, length_chars_append,
      String.length_append]
    omega

end Lengths

section Ends

variable {segments : List Segment} {code body : List Char}

/-- How the code begins, and how it ends. -/
def codeStart : List Char :=
  "const \x7b AbsoluteFill, Sequence, useCurrentFrame, useVideoConfig, spring, interpolate, ".toList ++
    "Img, Audio \x7d = Remotion;\n".toList

def codeEnd : List Char :=
  "\n  </AbsoluteFill>\n);\n".toList ++ ['\n'] ++ "return MyVideo;\n".toList

/-- The code of a scene at least stands between the beginning and the end. -/
def Between (code : List Char) : Prop :=
  ∃ body, code = codeStart ++ body ++ codeEnd ∧ 351 ≤ body.length

theorem length_codeStart : codeStart.length = 111 := by
  have hfirst : "const \x7b AbsoluteFill, Sequence, useCurrentFrame, useVideoConfig, spring, interpolate, ".length = 86 := by
    decide
  have hsecond : "Img, Audio \x7d = Remotion;\n".length = 25 := by decide
  unfold codeStart
  rw [List.length_append, String.length_toList, String.length_toList]
  omega

/-- The rest of the preamble, and how the video begins. -/
def imports : String :=
  "const \x7b CenterScene, Content, CinematicBG, FadeUp, useExit, CTAButton, LogoIcon \x7d " ++
    ("= Components;\n" ++ "const \x7b C, F \x7d = Theme;\n")

def videoStart : String :=
  "\nconst MyVideo = () => (\n  <AbsoluteFill style=\x7b\x7b backgroundColor: "

def codeBody (palette : Palette) (imageCount : Nat) (hasAudio : Bool) (segments : List Segment) :
    List Char :=
  imports.toList ++ "\n".toList ++
    chars (separated "\n" (segments.map (sceneDefinition palette imageCount))) ++
    videoStart.toList ++ Json.literalChars (background palette).toList ++
    " \x7d\x7d>\n".toList ++ ("\n".intercalate (sequences hasAudio segments)).toList

theorem length_imports : imports.length = 120 := by
  have hcomponents : "const \x7b CenterScene, Content, CinematicBG, FadeUp, useExit, CTAButton, LogoIcon \x7d ".length = 82 := by
    decide
  have hsource : "= Components;\n".length = 14 := by decide
  have htheme : "const \x7b C, F \x7d = Theme;\n".length = 24 := by decide
  unfold imports
  rw [String.length_append, String.length_append]
  omega

theorem preamble_toList : preamble.toList = codeStart ++ imports.toList := by
  unfold imports codeStart preamble
  simp only [String.toList_append, List.append_assoc]

theorem chars_pieces_eq (palette : Palette) (imageCount : Nat) (hasAudio : Bool)
    (segments : List Segment) :
    chars (pieces palette imageCount hasAudio segments) =
      codeStart ++ codeBody palette imageCount hasAudio segments ++ codeEnd := by
  have hend : "\n  </AbsoluteFill>\n);\n\nreturn MyVideo;\n".toList = codeEnd := by decide
  have hpieces : pieces palette imageCount hasAudio segments =
      .markup (preamble ++ "\n") ::
        (separated "\n" (segments.map (sceneDefinition palette imageCount)) ++
          [.markup videoStart, .literal (background palette),
            .markup (" \x7d\x7d>\n" ++ "\n".intercalate (sequences hasAudio segments) ++
              "\n  </AbsoluteFill>\n);\n\nreturn MyVideo;\n")]) := rfl
  rw [hpieces]
  simp only [codeBody, chars, List.flatMap_cons, List.flatMap_append, List.flatMap_nil,
    Piece.chars, String.toList_append, List.append_assoc, List.append_nil, preamble_toList, hend]

theorem length_codeBody (palette : Palette) (imageCount : Nat) (hasAudio : Bool)
    (h : segments ≠ []) : 351 ≤ (codeBody palette imageCount hasAudio segments).length := by
  have himports := length_imports
  have hvideo : videoStart.length = 67 := by decide
  have hbreak : "\n".length = 1 := by decide
  have hscenes : 163 ≤
      (chars (separated "\n" (segments.map (sceneDefinition palette imageCount)))).length := by
    cases segments with
    | nil => exact absurd rfl h
    | cons segment rest =>
      have hfirst := length_chars_sceneDefinition palette imageCount segment
      exact hfirst.trans (length_chars_separated _ _ _)
  simp only [codeBody, List.length_append, String.length_toList]
  omega

theorem between_pieces (palette : Palette) (imageCount : Nat) (hasAudio : Bool)
    (h : segments ≠ []) : Between (chars (pieces palette imageCount hasAudio segments)) :=
  ⟨_, chars_pieces_eq palette imageCount hasAudio segments,
    length_codeBody palette imageCount hasAudio h⟩

/-- The element that ends the markup, with what follows it. -/
def lastTag : List Char := "</AbsoluteFill>\n);\n".toList ++ ['\n'] ++ "return MyVideo;\n".toList

theorem codeEnd_eq : codeEnd = "\n  ".toList ++ lastTag := by decide

theorem closeTag_lastTag (before : Option Char) :
    (Review.closeTag.span? before lastTag).isSome = true := by
  have hstart : (Review.closeTag.span? none lastTag).isSome = true := by decide
  exact hstart

namespace Between

theorem returns (h : Between code) : somewhere returnsName none code = true := by
  obtain ⟨body, rfl, _⟩ := h
  have hreturns : returnsName (some '\n') "return MyVideo;\n".toList = true := by decide
  unfold codeEnd
  rw [← List.append_assoc, ← List.append_assoc]
  refine Review.somewhere_append ?_
  rw [Review.Signature.lastOf_append]
  exact hreturns

theorem occurs_of_start (h : Between code) {word : List Char}
    (hw : occurs word codeStart = true) : occurs word code = true := by
  obtain ⟨body, rfl, _⟩ := h
  rw [occurs_iff] at hw ⊢
  rw [List.append_assoc]
  exact hw.trans (List.prefix_append _ _).isInfix

theorem remotion (h : Between code) : occurs "Remotion".toList code = true :=
  h.occurs_of_start (by decide)

theorem layout (h : Between code) : occurs "AbsoluteFill".toList code = true :=
  h.occurs_of_start (by decide)

theorem markup (h : Between code) : code.contains '<' = true := by
  obtain ⟨body, rfl, _⟩ := h
  have hclosed : '<' ∈ codeEnd := by decide
  exact List.contains_iff_mem.mpr (List.mem_append_right _ hclosed)

theorem length (h : Between code) : longestStub < code.length := by
  obtain ⟨body, rfl, hbody⟩ := h
  have hclosed : codeEnd.length = 39 := by decide
  have hopened := length_codeStart
  have hstub : longestStub = 500 := rfl
  rw [List.length_append, List.length_append]
  omega

theorem shapeIssues (h : Between code) : Review.shapeIssues code = [] :=
  Review.shapeIssues_of_shape h.returns h.remotion h.layout h.markup h.length

theorem tagIssues (h : Between code) : Review.tagIssues code = [] := by
  obtain ⟨body, rfl, _⟩ := h
  have hne : lastTag ≠ [] := List.cons_ne_nil _ _
  refine Review.tagIssues_of_closing ?_
  rw [codeEnd_eq, ← List.append_assoc]
  exact Pattern.count_pos hne closeTag_lastTag

theorem lengthIssues (h : Between code) : Review.lengthIssues code = [] := by
  obtain ⟨body, rfl, hbody⟩ := h
  have hfirst : codeStart = 'c' :: codeStart.tail := rfl
  have hlast : codeEnd = codeEnd.take 37 ++ ';' :: ['\n'] := by decide
  have hcode : codeStart ++ body ++ codeEnd =
      'c' :: (codeStart.tail ++ body ++ codeEnd.take 37) ++ ';' :: ['\n'] := by
    rw [List.cons_append, List.append_assoc _ _ [';', '\n'], ← hlast, List.append_assoc,
      List.append_assoc, ← List.cons_append, ← hfirst]
  refine Review.lengthIssues_of_kept hcode (by decide) (by decide) ?_
  have hleast : leastLength = 50 := rfl
  rw [List.length_append, List.length_append]
  omega

theorem shape_passed (h : Between code) :
    (Layer.shape.review (String.ofList code)).passed = true := by
  rw [Layer.review_ofList, Review.Verdict.of_passed_iff]
  exact h.shapeIssues

/-- Only brackets can be at fault in how such code is written. -/
theorem writing_issues (h : Between code) :
    (Layer.writing.review (String.ofList code)).issues = bracketIssues code := by
  have hissues : Layer.writing.issues code =
      bracketIssues code ++ Review.tagIssues code ++ Review.lengthIssues code := rfl
  rw [Layer.review_ofList, Review.Verdict.of, hissues, h.tagIssues, h.lengthIssues,
    List.append_nil, List.append_nil]

end Between

end Ends

/-- For each pair of brackets, no part of the text from its beginning on has more closing
ones than opening ones, and the whole text has as many of both. -/
def IsBalanced (text : String) : Prop := ∀ pair ∈ bracketPairs, Balanced pair text.toList

theorem isBalanced_iff {text : String} :
    IsBalanced text ↔ ∀ pair ∈ bracketPairs, pair.after 0 text.toList = some 0 :=
  forall₂_congr fun _ hp => Review.balanced_iff hp

instance (text : String) : Decidable (IsBalanced text) := decidable_of_iff _ isBalanced_iff.symm

section Verdicts

variable {pieces : List Piece} {found : List Mark}

theorem writing_passed (hb : Between (chars pieces)) (hf : Frames ground pieces found ground)
    (hall : ∀ text ∈ literals pieces, IsBalanced text) :
    (Layer.writing.review (String.ofList (chars pieces))).passed = true := by
  rw [Layer.passed_iff, hb.writing_issues]
  exact Review.bracketIssues_of_nests (hf.nests hall)

theorem mem_safety_issues (hf : Frames ground pieces found ground) {issue : String} :
    issue ∈ (Layer.safety.review (String.ofList (chars pieces))).issues ↔
      ∃ text ∈ literals pieces, issue ∈ (Layer.safety.review (Json.literal text)).issues := by
  simp only [Json.literal, Layer.safety_issues]
  exact mem_forbiddenIssues_chars hf.mute

theorem review_passed (hb : Between (chars pieces)) (hf : Frames ground pieces found ground)
    (hall : ∀ text ∈ literals pieces, IsBalanced text ∧
      (Layer.safety.review (Json.literal text)).passed = true) :
    (Review.review (String.ofList (chars pieces))).passed = true := by
  have hsafe : (Layer.safety.review (String.ofList (chars pieces))).passed = true := by
    rw [Layer.passed_iff, List.eq_nil_iff_forall_not_mem]
    intro issue hissue
    obtain ⟨text, ht, hliteral⟩ := (mem_safety_issues hf).mp hissue
    rw [Layer.passed_iff.mp (hall text ht).2] at hliteral
    cases hliteral
  rw [Review.review_passed_iff]
  intro layer _
  cases layer with
  | writing => exact writing_passed hb hf fun text ht => (hall text ht).1
  | safety => exact hsafe
  | shape => exact hb.shape_passed

end Verdicts

/-- The verdict on the code of the template is that on the texts of the script. The code has
the shape of a composition; as to its writing, only brackets can be at fault, and they are
not if the texts are balanced; and what is forbidden in it is what is forbidden in the
literal of a text. -/
theorem review_follows_texts {script : Script} {imageUrls : List String}
    {narration : Option Narration} {fps : Int} {segments : List Segment}
    (h : script.timeline fps = .ok segments) :
    ∃ result, code script imageUrls narration fps = .ok result ∧
      (Layer.shape.review result).passed = true ∧
      (Layer.writing.review result).issues = bracketIssues result.toList ∧
      ((∀ text ∈ embedded script imageUrls.length, IsBalanced text) →
        (Layer.writing.review result).passed = true) ∧
      (∀ issue, issue ∈ (Layer.safety.review result).issues ↔
        ∃ text ∈ embedded script imageUrls.length,
          issue ∈ (Layer.safety.review (Json.literal text)).issues) ∧
      ((∀ text ∈ embedded script imageUrls.length, IsBalanced text ∧
          (Layer.safety.review (Json.literal text)).passed = true) →
        (Review.review result).passed = true) := by
  obtain ⟨htiled, hcarried⟩ := tiled_of_layOut h
  -- Without a scene the code would be short enough to be a stub.
  have hsegments : segments ≠ [] := by
    rintro rfl
    exact script.filled hcarried.symm
  have hbetween := between_pieces script.palette imageUrls.length narration.isSome hsegments
  have hframes := frames_pieces script.palette imageUrls.length narration.isSome htiled.bounds
  rw [← literals_pieces h imageUrls.length narration.isSome]
  refine ⟨_, code_of_timeline h, hbetween.shape_passed, ?_, writing_passed hbetween hframes,
    fun issue => mem_safety_issues hframes, review_passed hbetween hframes⟩
  rw [String.toList_ofList]
  exact hbetween.writing_issues

/-- A script of one scene whose texts have brackets and name a forbidden construct. -/
def bracketedScript : Script :=
  ⟨"s", [⟨"a", 1, "", ⟨"f(x[0])", "\x7b\x7d", ["fetch it"], []⟩, "", none⟩], .standard, "", [],
    List.cons_ne_nil _ _⟩

theorem bracketedScript_passes : ∃ result,
    code bracketedScript [] none frameRate = .ok result ∧
    (Review.review result).passed = true := by
  obtain ⟨segments, hs⟩ : ∃ segments, bracketedScript.timeline frameRate = .ok segments :=
    ⟨_, rfl⟩
  obtain ⟨result, hcode, _, _, _, _, hpassed⟩ :=
    @review_follows_texts bracketedScript [] none frameRate segments hs
  have htexts : embedded bracketedScript 0 =
      ["#6366f1", "f(x[0])", "\x7b\x7d", "→ fetch it", "#0a0a0a"] := by decide
  refine ⟨result, hcode, hpassed ?_⟩
  have hall : ∀ text ∈ ["#6366f1", "f(x[0])", "\x7b\x7d", "→ fetch it", "#0a0a0a"],
      IsBalanced text ∧ (Layer.safety.review (Json.literal text)).passed = true := by
    decide
  rw [← htexts] at hall
  exact hall

end Template

end Storyboard
