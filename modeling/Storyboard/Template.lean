import Storyboard.Decimal.Layout
import Storyboard.Json.Literal
import Storyboard.Narration
import Storyboard.Timeline

/-!
# The template composition

When no model code can be trusted, the code of a video is put together from the
script alone. It is a list of pieces: fixed markup, numbers from the timeline,
and texts of the script. A text enters the code only as a string literal, so
that nothing a script says can end the literal it stands in.
-/

namespace Storyboard.Template

open Decimal (NumberFault wholeText)

/-- A part of the code. -/
inductive Piece where
  /-- Markup that no text of the script enters. -/
  | markup (text : String)
  /-- A text of the script, written as a string literal. -/
  | literal (text : String)
deriving DecidableEq, Repr

/-- The code of a piece. -/
def Piece.chars : Piece → List Char
  | .markup text => text.toList
  | .literal text => Json.literalChars text.toList

/-- The code of pieces that follow each other. -/
def chars (pieces : List Piece) : List Char := pieces.flatMap Piece.chars

theorem chars_append (a b : List Piece) : chars (a ++ b) = chars a ++ chars b := by
  simp [chars]

/-- Groups of pieces with a separator between them. -/
def separated (separator : String) : List (List Piece) → List Piece
  | [] => []
  | [group] => group
  | group :: rest => group ++ .markup separator :: separated separator rest

/-- A scene leaves over its last frames, this many of them. -/
def exitFrames : Int := 25

/-- The frame of its scene at which a headline enters. -/
def headlineDelay : Int := 8

/-- The frame of its scene at which a subhead enters. -/
def subheadDelay : Int := 25

/-- The frame of its scene at which the first bullet enters. -/
def firstBulletDelay : Int := 30

/-- The frames between one bullet and the next. -/
def bulletStagger : Int := 15

/-- What stands before each bullet. -/
def bulletMark : String := "→ "

/-- The background of a script that sets an empty one. -/
def standardBackground : String := "#0a0a0a"

/-- The names that the code takes from its host. -/
def preamble : String :=
  "const \x7b AbsoluteFill, Sequence, useCurrentFrame, useVideoConfig, spring, interpolate, " ++
  "Img, Audio \x7d = Remotion;\n" ++
  "const \x7b CenterScene, Content, CinematicBG, FadeUp, useExit, CTAButton, LogoIcon \x7d " ++
  "= Components;\n" ++
  "const \x7b C, F \x7d = Theme;\n"

/-- How headlines look. -/
def headlineStyle : String :=
  "fontSize: 44, fontWeight: 900, fontFamily: F, lineHeight: 1.15, color: \"#ffffff\""

/-- What is added to headlines over an image. -/
def shadowStyle : String := ", textShadow: \"0 2px 20px rgba(0,0,0,0.8)\""

/-- How subheads look. -/
def subheadStyle : String :=
  "fontSize: 22, color: \"#94a3b8\", fontFamily: F, fontWeight: 500, marginTop: 16"

/-- How bullets look. -/
def bulletStyle : String :=
  "fontSize: 18, color: \"#ffffff\", fontFamily: F, fontWeight: 500, marginTop: 8"

/-- A text that enters after a delay, with its own style. -/
def fadingText (indent : String) (delay : Int) (style text : String) : List Piece := [
  .markup (indent ++ "<FadeUp delay=\x7b" ++ wholeText delay ++ "\x7d style=\x7b\x7b " ++ style ++
    " \x7d\x7d>\x7b"),
  .literal text,
  .markup "\x7d</FadeUp>"]

/-- The headline of a scene. It is there even when its text is empty. -/
def headline (indent : String) (overImage : Bool) (text : String) : List Piece := [
  .markup (indent ++ "<FadeUp delay=\x7b" ++ wholeText headlineDelay ++ "\x7d>\n" ++
    indent ++ "  <div style=\x7b\x7b " ++ headlineStyle ++
    (if overImage then shadowStyle else "") ++ " \x7d\x7d>\x7b"),
  .literal text,
  .markup ("\x7d</div>\n" ++ indent ++ "</FadeUp>")]

/-- The bullets of a scene from a delay on. -/
def bullets (indent : String) (delay : Int) : List String → List (List Piece)
  | [] => []
  | bullet :: rest =>
    fadingText indent delay bulletStyle (bulletMark ++ bullet) ::
      bullets indent (delay + bulletStagger) rest

/-- The texts of a scene. -/
def sceneTexts (indent : String) (overImage : Bool) (text : SceneText) : List Piece :=
  separated "\n" (headline indent overImage text.headline ::
    (if text.subhead.isEmpty then []
      else [fadingText indent subheadDelay subheadStyle text.subhead]) ++
    bullets indent firstBulletDelay text.bullets)

/-- The frame of its scene at which a segment begins to leave. -/
def exitStart (segment : Segment) : Int := max 0 (segment.frames - exitFrames)

/-- The start of a scene. Every scene but the last leaves at its end. -/
def sceneHead (segment : Segment) : String :=
  s!"const Scene{segment.index} = () => \x7b\n" ++
  (if segment.isLast then ""
    else "  const \x7b op, y \x7d = useExit(" ++ wholeText (exitStart segment) ++ ", " ++
      wholeText segment.frames ++ ");\n") ++
  "  return (\n"

/-- The end of a scene. -/
def sceneFoot : String := "  );\n\x7d;\n"

/-- How opaque a scene is. -/
def opacity (segment : Segment) : String := if segment.isLast then "1" else "op"

/-- How far a scene has moved. -/
def shift (segment : Segment) : String := if segment.isLast then "0" else "y"

/-- A scene over an image. -/
def imageScene (segment : Segment) : List Piece :=
  .markup (sceneHead segment ++
    "    <AbsoluteFill style=\x7b\x7b opacity: " ++ opacity segment ++
      ", transform: \"translateY(\" + " ++ shift segment ++ " + \"px)\" \x7d\x7d>\n" ++
    s!"      <CinematicBG src=\x7bimages[{segment.index}]\x7d overlayOpacity=\x7b0.6\x7d />\n" ++
    "      <Content>\n") ::
  sceneTexts "        " true segment.scene.text ++
  [.markup ("\n      </Content>\n    </AbsoluteFill>\n" ++ sceneFoot)]

/-- A scene of text alone, tinted with a colour. -/
def textScene (tint : String) (segment : Segment) : List Piece :=
  .markup (sceneHead segment ++
    "    <CenterScene opacity=\x7b" ++ opacity segment ++ "\x7d translateY=\x7b" ++ shift segment ++
      s!"\x7d seed=\x7b{segment.index}\x7d tint=\x7b") ::
  .literal tint ::
  .markup "\x7d>\n" ::
  sceneTexts "      " false segment.scene.text ++
  [.markup ("\n    </CenterScene>\n" ++ sceneFoot)]

/-- The colour of a text scene: the tints of the palette in turn. -/
def tintFor (palette : Palette) (index : Nat) : String :=
  (palette.tints[index % palette.tints.length]?).getD palette.primary

/-- The definition of a scene, over its image when there is one. -/
def sceneDefinition (palette : Palette) (imageCount : Nat) (segment : Segment) : List Piece :=
  if segment.index < imageCount then imageScene segment
  else textScene (tintFor palette segment.index) segment

/-- The sequence that plays a spoken track through the whole video. -/
def audioSequence (frames : Int) : String :=
  "    <Sequence from=\x7b0\x7d durationInFrames=\x7b" ++ wholeText frames ++ "\x7d>\n" ++
  "      <Audio src=\x7baudioUrl\x7d />\n    </Sequence>"

/-- The sequence that shows a scene. -/
def sceneSequence (segment : Segment) : String :=
  "    <Sequence from=\x7b" ++ wholeText segment.start ++ "\x7d durationInFrames=\x7b" ++
    wholeText segment.frames ++ s!"\x7d><Scene{segment.index} /></Sequence>"

/-- The sequences of a video. -/
def sequences (hasAudio : Bool) (segments : List Segment) : List String :=
  (if hasAudio then [audioSequence (totalFrames segments)] else []) ++ segments.map sceneSequence

/-- The background of a video. -/
def background (palette : Palette) : String :=
  if palette.background.isEmpty then standardBackground else palette.background

/-- The code for a timeline, in pieces. -/
def pieces (palette : Palette) (imageCount : Nat) (hasAudio : Bool) (segments : List Segment) :
    List Piece :=
  .markup (preamble ++ "\n") ::
  separated "\n" (segments.map (sceneDefinition palette imageCount)) ++
  [.markup "\nconst MyVideo = () => (\n  <AbsoluteFill style=\x7b\x7b backgroundColor: ",
    .literal (background palette),
    .markup (" \x7d\x7d>\n" ++ String.intercalate "\n" (sequences hasAudio segments) ++
      "\n  </AbsoluteFill>\n);\n\nreturn MyVideo;\n")]

/-- The code for a script, its images and its narration. -/
def code (script : Script) (imageUrls : List String) (narration : Option Narration) (fps : Int) :
    Except NumberFault String := do
  let segments ← script.timeline fps
  .ok (String.ofList (chars (pieces script.palette imageUrls.length narration.isSome segments)))

end Storyboard.Template
