import Storyboard.Proofs.Framing
import Storyboard.Proofs.Tiling

/-!
# How the template stages a timeline

The marks of the template's code are listed from the segments alone: each scene is defined
once, in order, with its exit and its image, and after the definitions the sequences follow,
each with the place of its segment. What stands between them, texts and delays included,
has no mark. On the way the depths of the brackets are those of the nesting of the code.
-/

namespace Storyboard.Template

open Decimal (wholeText digitsOf)
open Quotes (lex outside)
open Marks
open Review (Depths)

def ground : Depths := ⟨0, 0, 0⟩

/-- The depths around the sequences. -/
def stageDepths : Depths := ⟨0, 1, 0⟩

/-- The depths around the texts of a scene, where a text stands, and within its style. -/
def sceneDepths : Depths := ⟨1, 1, 0⟩

def textDepths : Depths := ⟨2, 1, 0⟩

def styleDepths : Depths := ⟨3, 1, 0⟩

/-- Between words around the texts of a scene, at a text, and within its style. -/
def inScene : Stand := between sceneDepths

def atText : Stand := between textDepths

def inStyle : Stand := between styleDepths

section Texts

variable {indent style text : String} {last : List Char}

/-- A text that enters has no mark in it, after any delay. -/
theorem frames_fadingText (hi : IsQuiet inScene indent inScene) {delay : Int} (hd : 0 ≤ delay)
    (hs : IsQuiet inStyle style ⟨last, styleDepths⟩)
    (hlast : IsQuiet ⟨last, styleDepths⟩ " \x7d\x7d>\x7b" atText) :
    Frames sceneDepths (fadingText indent delay style text) [] sceneDepths := by
  -- The delay has any number of digits: what stands before and after it is read on its own.
  obtain ⟨delay, rfl⟩ := Int.eq_ofNat_of_zero_le hd
  have hopen : IsQuiet inScene "<FadeUp delay=\x7b" atText := quiet_ofList (by decide)
  have hdelay : IsQuiet atText (wholeText (delay : Int)) ⟨digitsOf delay, textDepths⟩ :=
    (reads_whole atText delay).quiet rfl
  have hstyle : IsQuiet ⟨digitsOf delay, textDepths⟩ "\x7d style=\x7b\x7b " inStyle :=
    quiet_after_number delay (by decide) (by decide)
  have hclose : IsQuiet atText "\x7d</FadeUp>" inScene := quiet_ofList (by decide)
  have hhead := ((((hi.append hopen).append hdelay).append hstyle).append hs).append hlast
  exact .markup hhead (.literal (.markup hclose .nil))

theorem frames_headline (hi : IsQuiet inScene indent inScene) (overImage : Bool) :
    Frames sceneDepths (headline indent overImage text) [] sceneDepths := by
  have hopen : IsQuiet inScene "<FadeUp delay=\x7b" atText := quiet_ofList (by decide)
  have hdelay : IsQuiet atText (wholeText headlineDelay) ⟨digitsOf 8, textDepths⟩ :=
    (reads_whole atText 8).quiet rfl
  have hbody : IsQuiet ⟨digitsOf 8, textDepths⟩ "\x7d>\n" inScene :=
    quiet_after_number 8 (by decide) (by decide)
  have hdiv : IsQuiet inScene "  <div style=\x7b\x7b " inStyle := quiet_ofList (by decide)
  have hstyle : IsQuiet inStyle headlineStyle inStyle := by
    unfold headlineStyle
    exact quiet_ofList (by decide)
  have hshadow : IsQuiet inStyle (if overImage = true then shadowStyle else "") inStyle := by
    cases overImage with
    | true => exact quiet_ofList (by decide)
    | false => exact quiet_ofList (by decide)
  have hend : IsQuiet inStyle " \x7d\x7d>\x7b" atText := quiet_ofList (by decide)
  have hcloseDiv : IsQuiet atText "\x7d</div>\n" inScene := quiet_ofList (by decide)
  have hclose : IsQuiet inScene "</FadeUp>" inScene := quiet_ofList (by decide)
  have hhead := (((((((hi.append hopen).append hdelay).append hbody).append hi).append
    hdiv).append hstyle).append hshadow).append hend
  have hfoot := (hcloseDiv.append hi).append hclose
  exact .markup hhead (.literal (.markup hfoot .nil))

theorem frames_bullets (hi : IsQuiet inScene indent inScene) {delay : Int} (hd : 0 ≤ delay)
    (texts : List String) :
    ∀ group ∈ bullets indent delay texts, Frames sceneDepths group [] sceneDepths := by
  have hstyle : IsQuiet inStyle bulletStyle ⟨['8'], styleDepths⟩ := quiet_ofList (by decide)
  have hlast : IsQuiet ⟨['8'], styleDepths⟩ " \x7d\x7d>\x7b" atText := quiet_ofList (by decide)
  induction texts generalizing delay with
  | nil => exact List.forall_mem_nil _
  | cons bullet rest ih =>
    have hnext : 0 ≤ delay + bulletStagger := by
      unfold bulletStagger
      omega
    rw [bullets, List.forall_mem_cons]
    exact ⟨frames_fadingText hi hd hstyle hlast, ih hnext⟩

theorem frames_sceneTexts (hi : IsQuiet inScene indent inScene) (overImage : Bool)
    (text : SceneText) :
    Frames sceneDepths (sceneTexts indent overImage text) [] sceneDepths := by
  have hbreak : IsQuiet inScene "\n" inScene := quiet_ofList (by decide)
  have hstyle : IsQuiet inStyle subheadStyle ⟨['1', '6'], styleDepths⟩ := quiet_ofList (by decide)
  have hlast : IsQuiet ⟨['1', '6'], styleDepths⟩ " \x7d\x7d>\x7b" atText :=
    quiet_ofList (by decide)
  refine .separated_quiet hbreak ?_
  rw [List.cons_append, List.forall_mem_cons, List.forall_mem_append]
  refine ⟨frames_headline hi overImage, ?_, frames_bullets hi (by decide) _⟩
  split
  · exact List.forall_mem_nil _
  · rw [List.forall_mem_singleton]
    exact frames_fadingText hi (by decide) hstyle hlast

end Texts

section Scenes

/-- The marks of a scene's definition: it leaves unless it is the last one, and it takes its
image if there is one. -/
def exitMarks (segment : Segment) : List Mark :=
  if segment.isLast then [] else [.exits (exitStart segment) segment.frames]

def sceneMarks (imageCount : Nat) (segment : Segment) : List Mark :=
  .defines segment.index :: exitMarks segment ++
    if segment.index < imageCount then [.takes segment.index] else []

variable {segment : Segment}

/-- The exit window of a scene lies in the scene. -/
theorem exitStart_bounds (h : 1 ≤ segment.frames) :
    0 ≤ exitStart segment ∧ exitStart segment < segment.frames := by
  have hdef : exitStart segment = max 0 (segment.frames - exitFrames) := rfl
  have hwindow : exitFrames = 25 := rfl
  omega

/-- Between words in the body of a scene's function. -/
def inBody : Stand := between ⟨1, 0, 0⟩

theorem stages_exit (h : 1 ≤ segment.frames) :
    Stages inBody (if segment.isLast = true then ""
      else "  const \x7b op, y \x7d = useExit(" ++ wholeText (exitStart segment) ++ ", " ++
        wholeText segment.frames ++ ");\n") (exitMarks segment) inBody := by
  unfold exitMarks
  cases hlast : segment.isLast with
  | true => exact quiet_ofList (by decide)
  | false =>
    obtain ⟨hpos, _⟩ := exitStart_bounds h
    obtain ⟨first, hfirst⟩ := Int.eq_ofNat_of_zero_le hpos
    obtain ⟨frames, hframes⟩ := Int.eq_ofNat_of_zero_le (Int.le_trans (by decide) h)
    rw [hfirst, hframes]
    have hopen : Reads inBody "  const \x7b op, y \x7d = useExit("
        [.keyword .const, .sign '\x7b', .other ['o', 'p'], .sign ',', .other ['y'], .sign '\x7d',
          .sign '=', .keyword .useExit, .sign '('] inScene := reads_ofList (by decide)
    have hcomma : Reads ⟨digitsOf first, sceneDepths⟩ ", " [.number first, .sign ','] inScene :=
      reads_after_number first (by decide) (by decide)
    have hclose : Reads ⟨digitsOf frames, sceneDepths⟩ ");\n"
        [.number frames, .sign ')', .sign ';'] inBody :=
      reads_after_number frames (by decide) (by decide)
    exact ⟨_, (((hopen.append (reads_whole inScene first)).append hcomma).append
      (reads_whole inScene frames)).append hclose, fun _ _ => rfl⟩

theorem stages_sceneHead (h : 1 ≤ segment.frames) :
    Stages (between ground) (sceneHead segment) (.defines segment.index :: exitMarks segment)
      inScene := by
  have hname : Reads (between ground) "const Scene" [.keyword .const] ⟨sceneStem, ground⟩ :=
    reads_ofList (by decide)
  have hindex := reads_toString ⟨sceneStem, ground⟩ segment.index
  have harrow : Reads ⟨sceneStem ++ digitsOf segment.index, ground⟩ " = () => \x7b\n"
      [.scene segment.index, .sign '=', .sign '(', .sign ')', .sign '=', .sign '>', .sign '\x7b']
      inBody := reads_after_scene segment.index (by decide) (by decide)
  have hdefines : Stages (between ground) s!"const Scene{segment.index} = () => \x7b\n"
      [.defines segment.index] inBody :=
    ⟨_, (hname.append hindex).append harrow, fun _ _ => rfl⟩
  have hreturn : IsQuiet inBody "  return (\n" inScene := quiet_ofList (by decide)
  have hwhole := (hdefines.append (stages_exit h)).append hreturn
  rwa [List.append_nil, List.singleton_append] at hwhole

/-- Where the depths are those of a function call in a style. -/
def callDepths : Depths := ⟨3, 2, 0⟩

theorem quiet_opacity (segment : Segment) :
    ∃ word, IsQuiet inStyle (opacity segment) ⟨word, styleDepths⟩ ∧
      IsQuiet ⟨word, styleDepths⟩ ", transform: \"translateY(\" + " (between callDepths) ∧
      IsQuiet atText (opacity segment) ⟨word, textDepths⟩ ∧
      IsQuiet ⟨word, textDepths⟩ "\x7d translateY=\x7b" atText := by
  unfold opacity
  cases segment.isLast with
  | true =>
    exact ⟨['1'], quiet_ofList (by decide), quiet_ofList (by decide), quiet_ofList (by decide),
      quiet_ofList (by decide)⟩
  | false =>
    exact ⟨['o', 'p'], quiet_ofList (by decide), quiet_ofList (by decide),
      quiet_ofList (by decide), quiet_ofList (by decide)⟩

theorem quiet_shift (segment : Segment) :
    ∃ word, IsQuiet (between callDepths) (shift segment) ⟨word, callDepths⟩ ∧
      IsQuiet ⟨word, callDepths⟩ " + \"px)\" \x7d\x7d>\n" inScene ∧
      IsQuiet atText (shift segment) ⟨word, textDepths⟩ ∧
      IsQuiet ⟨word, textDepths⟩ "\x7d seed=\x7b" atText := by
  unfold shift
  cases segment.isLast with
  | true =>
    exact ⟨['0'], quiet_ofList (by decide), quiet_ofList (by decide), quiet_ofList (by decide),
      quiet_ofList (by decide)⟩
  | false =>
    exact ⟨['y'], quiet_ofList (by decide), quiet_ofList (by decide), quiet_ofList (by decide),
      quiet_ofList (by decide)⟩

theorem quiet_sceneFoot : IsQuiet inScene sceneFoot (between ground) := quiet_ofList (by decide)

theorem frames_imageScene (h : 1 ≤ segment.frames) :
    Frames ground (imageScene segment)
      (.defines segment.index :: exitMarks segment ++ [.takes segment.index]) ground := by
  have hindent : IsQuiet inScene "        " inScene := quiet_ofList (by decide)
  -- The bracket that the string of the transform opens is closed by the string of the pixels.
  obtain ⟨tone, hopacity, htransform, _⟩ := quiet_opacity segment
  obtain ⟨moved, hshift, hpixels, _⟩ := quiet_shift segment
  have hfill : IsQuiet inScene "    <AbsoluteFill style=\x7b\x7b opacity: " inStyle :=
    quiet_ofList (by decide)
  have hsource : Reads inScene "      <CinematicBG src=\x7bimages["
      [.sign '<', .other "CinematicBG".toList, .keyword .src, .sign '=', .sign '\x7b',
        .keyword .images, .sign '['] (between ⟨2, 1, 1⟩) := reads_ofList (by decide)
  have hoverlay : Reads ⟨digitsOf segment.index, ⟨2, 1, 1⟩⟩ "]\x7d overlayOpacity=\x7b0.6\x7d />\n"
      [.number segment.index, .sign ']', .sign '\x7d', .other "overlayOpacity".toList, .sign '=',
        .sign '\x7b', .number 0, .sign '.', .number 6, .sign '\x7d', .sign '/', .sign '>']
      inScene := reads_after_number segment.index (by decide) (by decide)
  have himage : Stages inScene s!"      <CinematicBG src=\x7bimages[{segment.index}]\x7d overlayOpacity=\x7b0.6\x7d />\n"
      [.takes segment.index] inScene :=
    ⟨_, (hsource.append (reads_toString (between ⟨2, 1, 1⟩) segment.index)).append hoverlay,
      fun _ _ => rfl⟩
  have hcontent : IsQuiet inScene "      <Content>\n" inScene := quiet_ofList (by decide)
  have hend : IsQuiet inScene "\n      </Content>\n    </AbsoluteFill>\n" inScene :=
    quiet_ofList (by decide)
  have hhead := ((((((((stages_sceneHead h).append hfill).append hopacity).append
    htransform).append hshift).append hpixels).append himage).append hcontent)
  have htexts := frames_sceneTexts hindent true segment.scene.text
  have hfoot := hend.append quiet_sceneFoot
  have hwhole := Frames.append (.markup hhead htexts) (.markup hfoot .nil)
  simp only [List.append_nil] at hwhole
  exact hwhole

theorem frames_textScene (h : 1 ≤ segment.frames) (tint : String) :
    Frames ground (textScene tint segment) (.defines segment.index :: exitMarks segment)
      ground := by
  have hindent : IsQuiet inScene "      " inScene := quiet_ofList (by decide)
  obtain ⟨tone, _, _, hopacity, htranslate⟩ := quiet_opacity segment
  obtain ⟨moved, _, _, hshift, hseed⟩ := quiet_shift segment
  have hopen : IsQuiet inScene "    <CenterScene opacity=\x7b" atText := quiet_ofList (by decide)
  have hindex : IsQuiet atText (toString segment.index) ⟨digitsOf segment.index, textDepths⟩ :=
    (reads_toString atText segment.index).quiet rfl
  have htint : IsQuiet ⟨digitsOf segment.index, textDepths⟩ "\x7d tint=\x7b" atText :=
    quiet_after_number segment.index (by decide) (by decide)
  have hopened : IsQuiet atText "\x7d>\n" inScene := quiet_ofList (by decide)
  have hend : IsQuiet inScene "\n    </CenterScene>\n" inScene := quiet_ofList (by decide)
  have hseeded := (hseed.append hindex).append htint
  have hhead := (((((stages_sceneHead h).append hopen).append hopacity).append
    htranslate).append hshift).append hseeded
  have htexts := frames_sceneTexts hindent false segment.scene.text
  have hfoot := hend.append quiet_sceneFoot
  have htinted : Frames textDepths (.literal tint :: .markup "\x7d>\n" ::
      sceneTexts "      " false segment.scene.text) [] sceneDepths :=
    .literal (.markup hopened htexts)
  have hwhole := Frames.append (.markup hhead htinted) (.markup hfoot .nil)
  simp only [List.append_nil] at hwhole
  exact hwhole

theorem frames_sceneDefinition (h : 1 ≤ segment.frames) (palette : Palette) (imageCount : Nat) :
    Frames ground (sceneDefinition palette imageCount segment) (sceneMarks imageCount segment)
      ground := by
  unfold sceneDefinition sceneMarks
  split
  · exact frames_imageScene h
  · rw [List.append_nil]
    exact frames_textScene h _

end Scenes

section Whole

variable {segments : List Segment}

/-- The marks of the names that the code takes from its host. -/
def preambleMarks : List Mark :=
  [.stray (.keyword .sequence), .stray (.keyword .audio), .stray (.keyword .useExit)]

def audioMarks (frames : Int) : List Mark := [.opens 0 frames, .plays, .closes]

def sequenceMarks (segment : Segment) : List Mark :=
  [.opens segment.start segment.frames, .shows segment.index, .closes]

/-- The marks of the code for a timeline. -/
def stageMarks (imageCount : Nat) (hasAudio : Bool) (segments : List Segment) : List Mark :=
  preambleMarks ++ segments.flatMap (sceneMarks imageCount) ++
    (if hasAudio then audioMarks (totalFrames segments) else []) ++
    segments.flatMap sequenceMarks

theorem stages_preamble : Stages (between ground) preamble preambleMarks (between ground) := by
  have hfirst : Reads (between ground) "const \x7b AbsoluteFill, Sequence, useCurrentFrame, useVideoConfig, spring, interpolate, "
      [.keyword .const, .sign '\x7b', .other "AbsoluteFill".toList, .sign ',',
        .keyword .sequence, .sign ',', .other "useCurrentFrame".toList, .sign ',',
        .other "useVideoConfig".toList, .sign ',', .other "spring".toList, .sign ',',
        .other "interpolate".toList, .sign ','] inBody := reads_ofList (by decide)
  have hsecond : Reads inBody "Img, Audio \x7d = Remotion;\n"
      [.other "Img".toList, .sign ',', .keyword .audio, .sign '\x7d', .sign '=',
        .other "Remotion".toList, .sign ';'] (between ground) := reads_ofList (by decide)
  have hremotion : Stages (between ground)
      ("const \x7b AbsoluteFill, Sequence, useCurrentFrame, useVideoConfig, spring, interpolate, " ++
        "Img, Audio \x7d = Remotion;\n")
      [.stray (.keyword .sequence), .stray (.keyword .audio)] (between ground) :=
    ⟨_, hfirst.append hsecond, fun _ _ => rfl⟩
  have hnames : Reads (between ground)
      "const \x7b CenterScene, Content, CinematicBG, FadeUp, useExit, CTAButton, LogoIcon \x7d "
      [.keyword .const, .sign '\x7b', .other "CenterScene".toList, .sign ',',
        .other "Content".toList, .sign ',', .other "CinematicBG".toList, .sign ',',
        .other "FadeUp".toList, .sign ',', .keyword .useExit, .sign ',',
        .other "CTAButton".toList, .sign ',', .other "LogoIcon".toList, .sign '\x7d']
      (between ground) := reads_ofList (by decide)
  have hcomponents : Stages (between ground)
      "const \x7b CenterScene, Content, CinematicBG, FadeUp, useExit, CTAButton, LogoIcon \x7d "
      [.stray (.keyword .useExit)] (between ground) := ⟨_, hnames, fun _ _ => rfl⟩
  have hsource : IsQuiet (between ground) "= Components;\n" (between ground) :=
    quiet_ofList (by decide)
  have htheme : IsQuiet (between ground) "const \x7b C, F \x7d = Theme;\n" (between ground) :=
    quiet_ofList (by decide)
  exact ((hremotion.append hcomponents).append hsource).append htheme

/-- Between words around the sequences. -/
def onStage : Stand := between stageDepths

theorem stages_sceneSequence {segment : Segment} (hs : 0 ≤ segment.start)
    (hf : 1 ≤ segment.frames) :
    Stages onStage (sceneSequence segment) (sequenceMarks segment) onStage := by
  obtain ⟨start, hstart⟩ := Int.eq_ofNat_of_zero_le hs
  obtain ⟨frames, hframes⟩ := Int.eq_ofNat_of_zero_le (Int.le_trans (by decide) hf)
  have hopen : Reads onStage "    <Sequence from=\x7b"
      [.sign '<', .keyword .sequence, .keyword .start, .sign '=', .sign '\x7b'] inScene :=
    reads_ofList (by decide)
  have hduration : Reads ⟨digitsOf start, sceneDepths⟩ "\x7d durationInFrames=\x7b"
      [.number start, .sign '\x7d', .keyword .duration, .sign '=', .sign '\x7b'] inScene :=
    reads_after_number start (by decide) (by decide)
  have hscene : Reads ⟨digitsOf frames, sceneDepths⟩ "\x7d><Scene"
      [.number frames, .sign '\x7d', .sign '>', .sign '<'] ⟨sceneStem, stageDepths⟩ :=
    reads_after_number frames (by decide) (by decide)
  have hclose : Reads ⟨sceneStem ++ digitsOf segment.index, stageDepths⟩ " /></Sequence>"
      [.scene segment.index, .sign '/', .sign '>', .sign '<', .sign '/', .keyword .sequence,
        .sign '>'] onStage := reads_after_scene segment.index (by decide) (by decide)
  have hshown := (hscene.append (reads_toString ⟨sceneStem, stageDepths⟩ segment.index)).append
    hclose
  unfold sceneSequence sequenceMarks
  rw [hstart, hframes]
  exact ⟨_, (((hopen.append (reads_whole inScene start)).append hduration).append
    (reads_whole inScene frames)).append hshown, fun _ _ => rfl⟩

theorem stages_audioSequence {frames : Int} (h : 0 ≤ frames) :
    Stages onStage (audioSequence frames) (audioMarks frames) onStage := by
  obtain ⟨frames, rfl⟩ := Int.eq_ofNat_of_zero_le h
  have hopen : Reads onStage "    <Sequence from=\x7b0\x7d durationInFrames=\x7b"
      [.sign '<', .keyword .sequence, .keyword .start, .sign '=', .sign '\x7b', .number 0,
        .sign '\x7d', .keyword .duration, .sign '=', .sign '\x7b'] inScene :=
    reads_ofList (by decide)
  have hbegun : Reads ⟨digitsOf frames, sceneDepths⟩ "\x7d>\n"
      [.number frames, .sign '\x7d', .sign '>'] onStage :=
    reads_after_number frames (by decide) (by decide)
  have hplays : Reads onStage "      <Audio src=\x7baudioUrl\x7d />\n    </Sequence>"
      [.sign '<', .keyword .audio, .keyword .src, .sign '=', .sign '\x7b', .keyword .audioUrl,
        .sign '\x7d', .sign '/', .sign '>', .sign '<', .sign '/', .keyword .sequence, .sign '>']
      onStage := reads_ofList (by decide)
  exact ⟨_, ((hopen.append (reads_whole inScene frames)).append hbegun).append hplays,
    fun _ _ => rfl⟩

/-- The marks of the sequences are those of the track, if there is one, and of the scenes. -/
theorem stages_sequences (hasAudio : Bool)
    (h : ∀ segment ∈ segments, 0 ≤ segment.start ∧ 1 ≤ segment.frames) :
    Stages onStage ("\n".intercalate (sequences hasAudio segments))
      ((if hasAudio then audioMarks (totalFrames segments) else []) ++
        segments.flatMap sequenceMarks) onStage := by
  have hbreak : IsQuiet onStage "\n" onStage := quiet_ofList (by decide)
  have hempty : IsQuiet onStage "" onStage := quiet_ofList (by decide)
  have hscenes : List.Forall₂ (fun text found => Stages onStage text found onStage)
      (segments.map sceneSequence) (segments.map sequenceMarks) := by
    rw [List.forall₂_map_left_iff, List.forall₂_map_right_iff, List.forall₂_same]
    exact fun segment hm => stages_sceneSequence (h segment hm).1 (h segment hm).2
  cases hasAudio with
  | false => exact stages_intercalate hbreak hempty hscenes
  | true =>
    have htotal := totalFrames_nonneg fun segment hm => (h segment hm).2
    exact stages_intercalate hbreak hempty (.cons (stages_audioSequence htotal) hscenes)

/-- The template's code for a timeline: its marks are those of the timeline, it returns to the
ground if its texts are balanced, and nothing forbidden begins outside of its literals. -/
theorem frames_pieces (palette : Palette) (imageCount : Nat) (hasAudio : Bool)
    (h : ∀ segment ∈ segments, 0 ≤ segment.start ∧ 1 ≤ segment.frames) :
    Frames ground (pieces palette imageCount hasAudio segments)
      (stageMarks imageCount hasAudio segments) ground := by
  have hbreak : IsQuiet (between ground) "\n" (between ground) := quiet_ofList (by decide)
  have hscenes : List.Forall₂ (fun group found => Frames ground group found ground)
      (segments.map (sceneDefinition palette imageCount))
      (segments.map (sceneMarks imageCount)) := by
    rw [List.forall₂_map_left_iff, List.forall₂_map_right_iff, List.forall₂_same]
    exact fun segment hm => frames_sceneDefinition (h segment hm).2 palette imageCount
  have hvideo : IsQuiet (between ground)
      "\nconst MyVideo = () => (\n  <AbsoluteFill style=\x7b\x7b backgroundColor: " atText :=
    quiet_ofList (by decide)
  have hopened : IsQuiet atText " \x7d\x7d>\n" onStage := quiet_ofList (by decide)
  have hend : IsQuiet onStage "\n  </AbsoluteFill>\n);\n\nreturn MyVideo;\n" (between ground) :=
    quiet_ofList (by decide)
  have hbody := (hopened.append (stages_sequences hasAudio h)).append hend
  have hlast : Frames textDepths [.literal (background palette), .markup (" \x7d\x7d>\n" ++
      "\n".intercalate (sequences hasAudio segments) ++
      "\n  </AbsoluteFill>\n);\n\nreturn MyVideo;\n")] _ ground := .literal (.markup hbody .nil)
  have hwhole := Frames.append
    (.markup (stages_preamble.append hbreak) (.separated hbreak hscenes)) (.markup hvideo hlast)
  simp only [List.append_nil, List.nil_append, ← List.flatMap_def] at hwhole
  rw [stageMarks, List.append_assoc]
  exact hwhole

/-- The images that these marks take, in their order. -/
def takenImages (found : List Mark) : List Nat :=
  found.filterMap fun
    | .takes image => some image
    | _ => none

theorem takenImages_sceneMarks (imageCount : Nat) (segment : Segment) :
    takenImages (sceneMarks imageCount segment) =
      if segment.index < imageCount then [segment.index] else [] := by
  unfold sceneMarks exitMarks
  split <;> split <;> rfl

theorem takenImages_scenes (imageCount : Nat) {index : Nat} {start : Int}
    (h : Tiled index start segments) :
    takenImages (segments.flatMap (sceneMarks imageCount)) =
      List.range' index (min segments.length (imageCount - index)) := by
  -- The index counts the scenes, so it leaves the images behind as the segments go on.
  induction segments generalizing index start with
  | nil =>
    rw [List.length_nil, Nat.zero_min]
    rfl
  | cons segment rest ih =>
    obtain ⟨hindex, _, _, _, hrest⟩ := h
    have hhead := takenImages_sceneMarks imageCount segment
    have htail := ih hrest
    rw [takenImages] at hhead htail ⊢
    rw [List.flatMap_cons, List.filterMap_append, hhead, htail, hindex, List.length_cons]
    by_cases hlt : index < imageCount
    · have hmin : min (rest.length + 1) (imageCount - index) =
          min rest.length (imageCount - (index + 1)) + 1 := by omega
      rw [if_pos hlt, hmin, List.range'_succ, List.singleton_append]
    · have hmin : min (rest.length + 1) (imageCount - index) = 0 := by omega
      have hlater : min rest.length (imageCount - (index + 1)) = 0 := by omega
      rw [if_neg hlt, hmin, hlater]
      rfl

theorem takenImages_stageMarks {start : Int} (imageCount : Nat) (hasAudio : Bool)
    (h : Tiled 0 start segments) :
    takenImages (stageMarks imageCount hasAudio segments) =
      List.range (min segments.length imageCount) := by
  have hscenes := takenImages_scenes imageCount h
  have hsequences : takenImages (segments.flatMap sequenceMarks) = [] := by
    rw [takenImages, List.filterMap_flatMap, List.flatMap_eq_nil_iff]
    exact fun _ _ => rfl
  have haudio : takenImages (if hasAudio then audioMarks (totalFrames segments) else []) = [] := by
    cases hasAudio <;> rfl
  rw [takenImages] at *
  rw [stageMarks, List.filterMap_append, List.filterMap_append, List.filterMap_append, hscenes,
    hsequences, haudio, List.append_nil, List.append_nil, Nat.sub_zero, List.range_eq_range']
  rfl

end Whole

/-- The timeline of a script is a tiling, and the template's code stages it: outside of
strings, its marks are those of the timeline. The exit window of each scene lies in the
scene, and the images are taken while there are scenes and images. -/
theorem code_stages_timeline {script : Script} {imageUrls : List String}
    {narration : Option Narration} {fps : Int} {segments : List Segment}
    (h : script.timeline fps = .ok segments) :
    Tiling script.scenes segments ∧
    (∀ segment ∈ segments, exitStart segment = max 0 (segment.frames - 25) ∧
      0 ≤ exitStart segment ∧ exitStart segment < segment.frames) ∧
    ∃ result tokens, code script imageUrls narration fps = .ok result ∧
      lex .code result.toList = some tokens ∧
      marks (outside tokens) = stageMarks imageUrls.length narration.isSome segments ∧
      takenImages (marks (outside tokens)) = List.range (min segments.length imageUrls.length) := by
  let all := pieces script.palette imageUrls.length narration.isSome segments
  obtain ⟨htiled, _⟩ := tiled_of_layOut h
  have hbounds := htiled.bounds
  have hmarks : marks (outside (all.flatMap Piece.tokens)) =
      stageMarks imageUrls.length narration.isSome segments := by
    rw [outside_pieces]
    exact (frames_pieces script.palette imageUrls.length narration.isSome hbounds).shows.marks
  refine ⟨Script.timeline_tiling h, fun segment hm => ⟨rfl, exitStart_bounds (hbounds segment hm).2⟩,
    _, all.flatMap Piece.tokens, code_of_timeline h, ?_, hmarks, ?_⟩
  · rw [String.toList_ofList]
    exact lex_chars closed_pieces
  · rw [hmarks]
    exact takenImages_stageMarks _ _ htiled

/-- A scene of a second before one that is shorter than a frame. -/
def briefScript : Script :=
  ⟨"s", [⟨"a", 1, "", ⟨"x", "", ["y"], []⟩, "", none⟩,
    ⟨"b", 0.01, "", ⟨"useExit(0, 1)", "", [], []⟩, "", none⟩], .standard, "", [],
    List.cons_ne_nil _ _⟩

theorem briefScript_staged : ∃ segments result tokens,
    briefScript.timeline frameRate = .ok segments ∧
    code briefScript ["u"] none frameRate = .ok result ∧
    lex .code result.toList = some tokens ∧
    marks (outside tokens) = preambleMarks ++
      [.defines 0, .exits 5 30, .takes 0, .defines 1, .opens 0 30, .shows 0, .closes,
        .opens 30 1, .shows 1, .closes] := by
  obtain ⟨segments, hs⟩ : ∃ segments, briefScript.timeline frameRate = .ok segments := ⟨_, rfl⟩
  obtain ⟨_, _, result, tokens, hcode, hlex, hmarks, _⟩ :=
    @code_stages_timeline briefScript ["u"] none frameRate segments hs
  refine ⟨segments, result, tokens, hs, hcode, hlex, ?_⟩
  obtain rfl := Except.ok.inj hs
  exact hmarks.trans (by decide)

end Storyboard.Template
