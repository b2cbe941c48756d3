import Storyboard.Proofs.Markup

/-!
# The outline of the template's code

The code of the template, read by the lexer of strings, has an outline that only the
shape of the script determines: how long its scenes are, which texts they have, how many
images there are and whether there is a track. Each text of the script is one string of
the code, in the order of the document.
-/

namespace Storyboard.Template

open Quotes
open Results (bind_ok_iff)

/-- What of a scene enters the outline. -/
structure SceneShape where
  frames : Int
  hasSubhead : Bool
  bulletCount : Nat
deriving DecidableEq, Repr

/-- What of a script, its images and its track enters the outline. -/
structure Shape where
  scenes : List SceneShape
  imageCount : Nat
  hasAudio : Bool
deriving DecidableEq, Repr

/-- The shape of a scene on the timeline. -/
def SceneShape.of (segment : Segment) : SceneShape :=
  ⟨segment.frames, !segment.scene.text.subhead.isEmpty, segment.scene.text.bullets.length⟩

/-- A text where there has to be one. -/
def placeholder : String := "-"

/-- A scene of a shape in which every text is blank or a placeholder. -/
def SceneShape.scene (shape : SceneShape) : Scene :=
  ⟨"", 0, "", ⟨"", if shape.hasSubhead then placeholder else "",
    List.replicate shape.bulletCount "", []⟩, "", none⟩

/-- The timeline of scenes of these shapes. -/
def segmentsOf (index : Nat) (start : Int) : List SceneShape → List Segment
  | [] => []
  | shape :: rest =>
    ⟨index, shape.scene, start, shape.frames, rest.isEmpty⟩ ::
      segmentsOf (index + 1) (start + shape.frames) rest

/-- The text outside of strings in the code for blank texts. -/
def Shape.outline (shape : Shape) : List Char :=
  outside ((pieces .standard shape.imageCount shape.hasAudio
    (segmentsOf 0 0 shape.scenes)).flatMap Piece.tokens)

/-- The markup of pieces. -/
def markups (pieces : List Piece) : List String :=
  pieces.filterMap fun
    | .markup text => some text
    | .literal _ => none

/-- The texts that enter pieces as literals. -/
def literals (pieces : List Piece) : List String :=
  pieces.filterMap fun
    | .markup _ => none
    | .literal text => some text

theorem markups_append (first second : List Piece) :
    markups (first ++ second) = markups first ++ markups second :=
  List.filterMap_append

theorem literals_append (first second : List Piece) :
    literals (first ++ second) = literals first ++ literals second :=
  List.filterMap_append

@[simp] theorem markups_markup (text : String) (rest : List Piece) :
    markups (.markup text :: rest) = text :: markups rest := rfl

@[simp] theorem markups_literal (text : String) (rest : List Piece) :
    markups (.literal text :: rest) = markups rest := rfl

@[simp] theorem literals_markup (text : String) (rest : List Piece) :
    literals (.markup text :: rest) = literals rest := rfl

@[simp] theorem literals_literal (text : String) (rest : List Piece) :
    literals (.literal text :: rest) = text :: literals rest := rfl

/-- Only the markup shows outside of strings. -/
theorem outside_pieces (pieces : List Piece) :
    outside (pieces.flatMap Piece.tokens) =
      (markups pieces).flatMap fun text => outside (Piece.markup text).tokens := by
  induction pieces with
  | nil => rfl
  | cons piece rest ih =>
    rw [List.flatMap_cons, outside_append, ih]
    cases piece with
    | markup text => rfl
    | literal text => rfl

section Markups

/-- A scene in which the texts are blank. -/
def blanked (segment : Segment) : Segment :=
  { segment with scene := (SceneShape.of segment).scene }

theorem markups_separated (separator : String) (groups : List (List Piece)) :
    markups (separated separator groups) =
      ((groups.map markups).intersperse [separator]).flatten := by
  induction groups with
  | nil => rfl
  | cons group rest ih =>
    cases rest with
    | nil => simp [separated]
    | cons next rest =>
      rw [separated, markups_append]
      · rw [markups_markup, ih]
        rfl
      · exact List.cons_ne_nil next rest

theorem map_markups_bullets {indent : String} {delay : Int} {texts others : List String}
    (h : texts.length = others.length) :
    (bullets indent delay texts).map markups = (bullets indent delay others).map markups := by
  induction texts generalizing others delay with
  | nil =>
    obtain rfl : others = [] := List.length_eq_zero_iff.mp h.symm
    rfl
  | cons text rest ih =>
    cases others with
    | nil => contradiction
    | cons other others =>
      have hrest : rest.length = others.length := Nat.succ.inj h
      rw [bullets, bullets, List.map_cons, List.map_cons, ih hrest]
      rfl

/-- The markup of a scene does not depend on its texts, only on which there are. -/
theorem markups_sceneTexts (indent : String) (overImage : Bool) (text : SceneText)
    (blank : SceneText) (hs : blank.subhead.isEmpty = text.subhead.isEmpty)
    (hb : blank.bullets.length = text.bullets.length) :
    markups (sceneTexts indent overImage blank) = markups (sceneTexts indent overImage text) := by
  have hsubhead : (if blank.subhead.isEmpty = true then []
        else [fadingText indent subheadDelay subheadStyle blank.subhead]).map markups =
      (if text.subhead.isEmpty = true then []
        else [fadingText indent subheadDelay subheadStyle text.subhead]).map markups := by
    rw [hs]
    split <;> rfl
  rw [sceneTexts, sceneTexts, markups_separated, markups_separated, List.cons_append,
    List.cons_append, List.map_cons, List.map_cons, List.map_append, List.map_append, hsubhead,
    map_markups_bullets hb]
  rfl

theorem scene_subhead (shape : SceneShape) :
    shape.scene.text.subhead.isEmpty = !shape.hasSubhead := by
  cases h : shape.hasSubhead <;> simp [SceneShape.scene, h, placeholder]

theorem markups_blanked (palette : Palette) (imageCount : Nat) (segment : Segment) :
    markups (sceneDefinition .standard imageCount (blanked segment)) =
      markups (sceneDefinition palette imageCount segment) := by
  have htexts (indent : String) (overImage : Bool) :
      markups (sceneTexts indent overImage (blanked segment).scene.text) =
        markups (sceneTexts indent overImage segment.scene.text) := by
    refine markups_sceneTexts _ _ _ _ ?_ ?_
    · change (SceneShape.of segment).scene.text.subhead.isEmpty = _
      rw [scene_subhead, SceneShape.of, Bool.not_not]
    · exact List.length_replicate
  have hindex : (blanked segment).index = segment.index := rfl
  have hhead : sceneHead (blanked segment) = sceneHead segment := rfl
  have hopacity : opacity (blanked segment) = opacity segment := rfl
  have hshift : shift (blanked segment) = shift segment := rfl
  rw [sceneDefinition, sceneDefinition, hindex]
  split
  · simp only [imageScene, List.cons_append, markups_markup, markups_append, htexts, hindex, hhead,
      hopacity, hshift]
  · simp only [textScene, List.cons_append, markups_markup, markups_literal, markups_append, htexts,
      hindex, hhead, hopacity, hshift]

/-- Segments that are laid out differ from those of their shapes in their texts only. -/
theorem map_blanked_of_layOut {fps start : Int} {index : Nat} {scenes : List Scene}
    {segments : List Segment} (h : layOut fps index start scenes = .ok segments) :
    segments.map blanked = segmentsOf index start (segments.map SceneShape.of) ∧
      segments.isEmpty = scenes.isEmpty := by
  induction scenes generalizing index start segments with
  | nil =>
    obtain rfl := Except.ok.inj h
    exact ⟨rfl, rfl⟩
  | cons scene rest ih =>
    obtain ⟨frames, _, hrest⟩ := bind_ok_iff.mp h
    obtain ⟨later, hlater, he⟩ := bind_ok_iff.mp hrest
    obtain rfl := Except.ok.inj he
    obtain ⟨hblanked, hempty⟩ := ih hlater
    refine ⟨?_, rfl⟩
    rw [List.map_cons, List.map_cons, segmentsOf, hblanked, List.isEmpty_map, hempty]
    rfl

theorem totalFrames_blanked (segments : List Segment) :
    totalFrames (segments.map blanked) = totalFrames segments := by
  rw [totalFrames, List.foldl_map]
  rfl

theorem sequences_blanked (hasAudio : Bool) (segments : List Segment) :
    sequences hasAudio (segments.map blanked) = sequences hasAudio segments := by
  rw [sequences, totalFrames_blanked, List.map_map]
  rfl

/-- The markup of the code is that of the code for blank texts. -/
theorem markups_pieces (palette : Palette) (imageCount : Nat) (hasAudio : Bool)
    (segments : List Segment) :
    markups (pieces .standard imageCount hasAudio (segments.map blanked)) =
      markups (pieces palette imageCount hasAudio segments) := by
  have hdefinitions : ((segments.map blanked).map (sceneDefinition .standard imageCount)).map
      markups = (segments.map (sceneDefinition palette imageCount)).map markups := by
    rw [List.map_map, List.map_map, List.map_map]
    exact List.map_congr_left fun segment _ => markups_blanked palette imageCount segment
  simp only [pieces, List.cons_append, markups_markup, markups_literal, markups_append,
    markups_separated, hdefinitions, sequences_blanked]

end Markups

section Literals

/-- The texts of a scene that stand in the code, in the order in which they are shown. -/
def shownTexts (text : SceneText) : List String :=
  text.headline :: (if text.subhead.isEmpty then [] else [text.subhead]) ++
    text.bullets.map (bulletMark ++ ·)

/-- The texts of a script that stand in its code, in the order of the document: a scene
without an image has its tint before its texts, and the background comes last. -/
def embedded (script : Script) (imageCount : Nat) : List String :=
  script.scenes.zipIdx.flatMap (fun (scene, index) =>
    (if index < imageCount then [] else [tintFor script.palette index]) ++
      shownTexts scene.text) ++
  [background script.palette]

theorem literals_separated (separator : String) (groups : List (List Piece)) :
    literals (separated separator groups) = groups.flatMap literals := by
  induction groups with
  | nil => rfl
  | cons group rest ih =>
    cases rest with
    | nil => simp [separated]
    | cons next rest =>
      rw [separated, literals_append, literals_markup, ih]
      · exact List.flatMap_cons.symm
      · exact List.cons_ne_nil next rest

theorem flatMap_literals_bullets (indent : String) (delay : Int) (texts : List String) :
    (bullets indent delay texts).flatMap literals = texts.map (bulletMark ++ ·) := by
  induction texts generalizing delay with
  | nil => rfl
  | cons text rest ih =>
    rw [bullets, List.flatMap_cons, ih, List.map_cons]
    rfl

theorem literals_sceneTexts (indent : String) (overImage : Bool) (text : SceneText) :
    literals (sceneTexts indent overImage text) = shownTexts text := by
  have hsubhead : (if text.subhead.isEmpty = true then []
        else [fadingText indent subheadDelay subheadStyle text.subhead]).flatMap literals =
      if text.subhead.isEmpty = true then [] else [text.subhead] := by
    split <;> rfl
  rw [sceneTexts, literals_separated, List.cons_append, List.flatMap_cons, List.flatMap_append,
    hsubhead, flatMap_literals_bullets]
  rfl

theorem literals_sceneDefinition (palette : Palette) (imageCount : Nat) (segment : Segment) :
    literals (sceneDefinition palette imageCount segment) =
      (if segment.index < imageCount then [] else [tintFor palette segment.index]) ++
        shownTexts segment.scene.text := by
  rw [sceneDefinition]
  split
  · simp only [imageScene, List.cons_append, literals_markup, literals_append,
      literals_sceneTexts]
    exact List.append_nil _
  · simp only [textScene, List.cons_append, literals_markup, literals_literal, literals_append,
      literals_sceneTexts]
    exact congrArg (List.cons _) (List.append_nil _)

/-- Segments carry the scenes in their order, each with its number. -/
theorem zipIdx_of_layOut {fps start : Int} {index : Nat} {scenes : List Scene}
    {segments : List Segment} (h : layOut fps index start scenes = .ok segments) :
    segments.map (fun segment => (segment.scene, segment.index)) = scenes.zipIdx index := by
  induction scenes generalizing index start segments with
  | nil =>
    obtain rfl := Except.ok.inj h
    rfl
  | cons scene rest ih =>
    obtain ⟨frames, _, hrest⟩ := bind_ok_iff.mp h
    obtain ⟨later, hlater, he⟩ := bind_ok_iff.mp hrest
    obtain rfl := Except.ok.inj he
    rw [List.map_cons, List.zipIdx_cons, ih hlater]

/-- The literals of the code are the embedded texts. -/
theorem literals_pieces {script : Script} {fps : Int} {segments : List Segment}
    (h : script.timeline fps = .ok segments) (imageCount : Nat) (hasAudio : Bool) :
    literals (pieces script.palette imageCount hasAudio segments) = embedded script imageCount := by
  have hscenes : (segments.map (sceneDefinition script.palette imageCount)).flatMap literals =
      script.scenes.zipIdx.flatMap fun (scene, index) =>
        (if index < imageCount then [] else [tintFor script.palette index]) ++
          shownTexts scene.text := by
    rw [← zipIdx_of_layOut h, List.flatMap_map, List.flatMap_map]
    exact List.flatMap_congr fun segment _ =>
      literals_sceneDefinition script.palette imageCount segment
  rw [embedded, ← hscenes, ← literals_separated "\n"]
  simp only [pieces, List.cons_append, literals_markup, literals_append]
  rfl

end Literals

section Reading

/-- What a string of the code is: one of the template's own, or an embedded text. -/
inductive Slot where
  | own (text : String)
  | user (text : String)
deriving DecidableEq, Repr

namespace Slot

/-- What stands between the quotes of a slot. -/
def body : Slot → List Char
  | .own text => text.toList
  | .user text => Json.literalBody text.toList

/-- The slot as it stands in the code, with its quotes. -/
def written (slot : Slot) : String := String.ofList ('"' :: slot.body ++ ['"'])

/-- The embedded text of a slot. -/
def text? : Slot → Option String
  | .own _ => none
  | .user text => some text

/-- A string of the template is a known one. An embedded text is read back from its string:
the units are those of the text, and so it is the text itself, unless two halves in it
stand side by side as the pair that denotes a character. -/
def Sound : Slot → Prop
  | .own text => text ∈ ownStrings
  | .user text =>
    ∀ room, Json.read room (Slot.user text).written =
        .ok (.text (String.ofList (Text.joinUnits (Text.units text.toList)))) ∧
      (Text.Unpaired text.toList → Json.read room (Slot.user text).written = .ok (.text text))

theorem sound_user (text : String) : (Slot.user text).Sound :=
  fun room => ⟨Json.read_literal room text, Json.read_literal_of_unpaired room⟩

theorem user_mem {text : String} {slots : List Slot} (h : text ∈ slots.filterMap Slot.text?) :
    Slot.user text ∈ slots := by
  obtain ⟨slot, hslot, htext⟩ := List.mem_filterMap.mp h
  cases slot with
  | own other => contradiction
  | user other =>
    obtain rfl := Option.some.inj htext
    exact hslot

end Slot

/-- The slots of a piece. -/
def Piece.slots : Piece → List Slot
  | .markup text => (strings (Piece.markup text).tokens).map fun body => .own (String.ofList body)
  | .literal text => [.user text]

theorem strings_pieces (pieces : List Piece) :
    strings (pieces.flatMap Piece.tokens) = (pieces.flatMap Piece.slots).map Slot.body := by
  induction pieces with
  | nil => rfl
  | cons piece rest ih =>
    rw [List.flatMap_cons, strings_append, ih, List.flatMap_cons, List.map_append]
    cases piece with
    | markup text =>
      have hbodies : (Piece.markup text).slots.map Slot.body =
          strings (Piece.markup text).tokens := by
        rw [Piece.slots, List.map_map]
        refine (List.map_congr_left fun body _ => ?_).trans (List.map_id _)
        exact String.toList_ofList
      rw [hbodies]
    | literal text => rfl

theorem texts_pieces (pieces : List Piece) :
    (pieces.flatMap Piece.slots).filterMap Slot.text? = literals pieces := by
  induction pieces with
  | nil => rfl
  | cons piece rest ih =>
    rw [List.flatMap_cons, List.filterMap_append, ih]
    cases piece with
    | markup text =>
      have hnone : (Piece.markup text).slots.filterMap Slot.text? = [] := by
        rw [Piece.slots, List.filterMap_map]
        exact List.filterMap_eq_nil_iff.mpr fun _ _ => rfl
      rw [hnone]
      rfl
    | literal text => rfl

theorem sound_slots {pieces : List Piece} (h : ∀ piece ∈ pieces, piece.Closed) :
    ∀ slot ∈ pieces.flatMap Piece.slots, slot.Sound := by
  intro slot hs
  obtain ⟨piece, hp, hm⟩ := List.mem_flatMap.mp hs
  cases piece with
  | literal text =>
    obtain rfl := List.mem_singleton.mp hm
    exact Slot.sound_user text
  | markup text =>
    obtain ⟨tokens, hl, hown⟩ := (h _ hp).strings
    rw [Piece.slots, Piece.tokens, hl, Option.getD_some] at hm
    obtain ⟨body, hb, rfl⟩ := List.mem_map.mp hm
    exact hown body hb

end Reading

/-- The shape of segments with images and a track. -/
def Shape.of (segments : List Segment) (imageCount : Nat) (hasAudio : Bool) : Shape :=
  ⟨segments.map SceneShape.of, imageCount, hasAudio⟩

/-- The code of the template for a script with a timeline closes each of its strings. The
text outside of strings is the outline of its shape; the strings are the embedded texts in
the order of the document, among fixed strings of the template, and each embedded text is
read back from its string. -/
theorem code_embeds_texts {script : Script} {imageUrls : List String}
    {narration : Option Narration} {fps : Int} {segments : List Segment}
    (h : script.timeline fps = .ok segments) :
    ∃ result tokens, ∃ slots : List Slot, code script imageUrls narration fps = .ok result ∧
      lex .code result.toList = some tokens ∧
      outside tokens = (Shape.of segments imageUrls.length narration.isSome).outline ∧
      strings tokens = slots.map Slot.body ∧
      slots.filterMap Slot.text? = embedded script imageUrls.length ∧
      ∀ slot ∈ slots, slot.Sound := by
  let all := pieces script.palette imageUrls.length narration.isSome segments
  have hclosed : ∀ piece ∈ all, piece.Closed := closed_pieces
  refine ⟨_, all.flatMap Piece.tokens, all.flatMap Piece.slots, code_of_timeline h, ?_, ?_,
    strings_pieces all, ?_, sound_slots hclosed⟩
  · rw [String.toList_ofList]
    exact lex_chars hclosed
  · have hblanked := (map_blanked_of_layOut h).1
    rw [outside_pieces, Shape.outline, outside_pieces, Shape.of, ← hblanked, markups_pieces]
  · rw [texts_pieces]
    exact literals_pieces h imageUrls.length narration.isSome

/-- A headline that would end its string, start another and leave a line open. -/
def hostileHeadline : String := "\"\x7d);\n\\alert(\"x\") // \\"

/-- A script of one scene with this headline. -/
def hostileScript : Script :=
  ⟨"s", [⟨"a", 1, "", ⟨hostileHeadline, "", ["y"], []⟩, "", none⟩], .standard, "", [],
    List.cons_ne_nil _ _⟩

theorem hostileHeadline_unpaired : Text.Unpaired hostileHeadline.toList := by
  have hascii : hostileHeadline.toList.all (fun c => c.toNat < 0x80) = true := by decide
  rw [List.all_eq_true] at hascii
  refine Text.unpaired_of_whole fun c hc => Text.halfOf?_eq_none ?_
  have hlt : c.toNat < 0x80 := of_decide_eq_true (hascii c hc)
  omega

theorem hostileScript_embedded : ∃ segments result tokens, ∃ slots : List Slot,
    hostileScript.timeline frameRate = .ok segments ∧
    code hostileScript [] none frameRate = .ok result ∧
    lex .code result.toList = some tokens ∧ strings tokens = slots.map Slot.body ∧
    slots.filterMap Slot.text? = ["#6366f1", hostileHeadline, "→ y", "#0a0a0a"] ∧
    Slot.user hostileHeadline ∈ slots ∧
    Json.read 0 (Slot.user hostileHeadline).written = .ok (.text hostileHeadline) := by
  obtain ⟨segments, hs⟩ : ∃ segments, hostileScript.timeline frameRate = .ok segments := ⟨_, rfl⟩
  obtain ⟨result, tokens, slots, hcode, hlex, _, hstrings, htexts, hsound⟩ :=
    @code_embeds_texts hostileScript [] none frameRate segments hs
  have htexts : slots.filterMap Slot.text? = ["#6366f1", hostileHeadline, "→ y", "#0a0a0a"] :=
    htexts
  have hmem : Slot.user hostileHeadline ∈ slots := by
    refine Slot.user_mem ?_
    rw [htexts]
    exact List.mem_cons_of_mem _ List.mem_cons_self
  exact ⟨segments, result, tokens, slots, hs, hcode, hlex, hstrings, htexts, hmem,
    (hsound _ hmem 0).2 hostileHeadline_unpaired⟩

/-- A headline of two halves that are not joined, as a text may hold them side by side. -/
def splitHeadline : String := String.ofList [Text.halfChar 0xD83D, Text.halfChar 0xDE00]

/-- A script of one scene with this headline. -/
def splitScript : Script :=
  ⟨"s", [⟨"a", 1, "", ⟨splitHeadline, "", [], []⟩, "", none⟩], .standard, "", [],
    List.cons_ne_nil _ _⟩

/-- The strings of the template stand for themselves. -/
theorem ownStrings_read {own : String} (h : own ∈ ownStrings) :
    Json.readText (own.toList ++ ['"']) = .ok (own, []) := by
  have hall : ownStrings.all (fun own =>
      (Json.readText (own.toList ++ ['"'])).toOption == some (own, [])) = true := by decide +kernel
  have hown := eq_of_beq (List.all_eq_true.mp hall own h)
  cases hread : Json.readText (own.toList ++ ['"']) with
  | error stop => simp [hread, Except.toOption] at hown
  | ok read => simpa [hread, Except.toOption] using hown

theorem embedded_split_joined : ∀ text ∈ embedded splitScript 0,
    Text.joinUnits (Text.units text.toList) ≠ splitHeadline.toList := by decide +kernel

/-- The headline is embedded, but none of the strings is read as it: its own string is read as the
one character that the two halves denote together. -/
theorem splitHeadline_joined : ∃ segments result tokens,
    splitScript.timeline frameRate = .ok segments ∧
    code splitScript [] none frameRate = .ok result ∧
    lex .code result.toList = some tokens ∧ splitHeadline ∈ embedded splitScript 0 ∧
    Json.literalBody splitHeadline.toList ∈ strings tokens ∧
    (∀ room, Json.read room (Json.literal splitHeadline) = .ok (.text "😀")) ∧
    ∀ body ∈ strings tokens, ∀ room,
      Json.read room (String.ofList ('"' :: body ++ ['"'])) ≠ .ok (.text splitHeadline) := by
  obtain ⟨segments, hs⟩ : ∃ segments, splitScript.timeline frameRate = .ok segments := ⟨_, rfl⟩
  let all := pieces splitScript.palette 0 false segments
  have hclosed : ∀ piece ∈ all, piece.Closed := closed_pieces
  have htexts : (all.flatMap Piece.slots).filterMap Slot.text? = embedded splitScript 0 := by
    rw [texts_pieces]
    exact literals_pieces hs 0 false
  have hshown : splitHeadline ∈ embedded splitScript 0 := by
    have hall : embedded splitScript 0 = ["#6366f1", splitHeadline, "#0a0a0a"] := rfl
    simp [hall]
  refine ⟨segments, _, all.flatMap Piece.tokens, hs, code_of_timeline hs, ?_, hshown, ?_, ?_, ?_⟩
  · rw [String.toList_ofList]
    exact lex_chars hclosed
  · rw [strings_pieces]
    rw [← htexts] at hshown
    exact List.mem_map.mpr ⟨_, Slot.user_mem hshown, rfl⟩
  · intro room
    have hjoined : Text.joinUnits (Text.units splitHeadline.toList) = ['😀'] := by
      decide +kernel
    rw [Json.read_literal, hjoined]
  · intro body hbody room
    rw [strings_pieces] at hbody
    obtain ⟨slot, hslot, rfl⟩ := List.mem_map.mp hbody
    have hsound := sound_slots hclosed slot hslot
    cases slot with
    | own text =>
      intro heq
      have hown : ownStrings.all (fun own => own ≠ splitHeadline) = true := by decide +kernel
      have hread : Json.read room (Slot.own text).written = .ok (.text text) :=
        Json.read_quoted room (ownStrings_read hsound)
      have heq : text = splitHeadline := Json.text.inj (Except.ok.inj (hread.symm.trans heq))
      exact of_decide_eq_true (List.all_eq_true.mp hown text hsound) heq
    | user text =>
      have hmem : text ∈ embedded splitScript 0 := by
        rw [← htexts]
        exact List.mem_filterMap.mpr ⟨_, hslot, rfl⟩
      intro heq
      have hjoin := Json.text.inj (Except.ok.inj ((hsound room).1.symm.trans heq))
      refine embedded_split_joined text hmem ?_
      rw [← hjoin, String.toList_ofList]

end Storyboard.Template
