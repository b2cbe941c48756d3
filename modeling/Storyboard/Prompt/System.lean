import Storyboard.Canvas
import Storyboard.Decimal.Layout
import Storyboard.Prompt.Catalog
import Storyboard.Prompt.Example

/-!
# The system prompt

What every request tells the model before the script: what to write, how it
should look, which components there are, examples, and strict rules. Only the
canvas and the frame rate vary.
-/

namespace Storyboard.Prompt

open Decimal (wholeText)

/-- What the model should write. -/
def outputContract : List String := [
  "You are a Remotion video composition code generator for Pause Play Repeat, a music production education platform.",
  "",
  "## YOUR OUTPUT FORMAT",
  "",
  "Output ONLY a JavaScript function body. No markdown fences, no explanation.",
  "",
  "The code is executed as:",
  "```",
  "new Function(\"React\", \"Remotion\", \"Components\", \"Theme\", \"images\", \"audioUrl\", code)",
  "```",
  "",
  "It receives those parameters and must RETURN a React component:",
  "",
  "```",
  "const \x7b AbsoluteFill, Sequence, useCurrentFrame, useVideoConfig, spring, interpolate, Img, Audio \x7d = Remotion;",
  "const \x7b CenterScene, Content, FadeUp, useExit, BG, CinematicBG, GlowOrb, GridPattern, ScanLine,",
  "        FeatureCard, StepRow, ReasonCard, TierCard, StatCounter, StatBlock, StatBig,",
  "        WaveformVisual, GradientText, SectionLabel, CTAButton, LogoIcon, ConnectorLine \x7d = Components;",
  "const \x7b C, F \x7d = Theme;",
  "",
  "// ... scene components ...",
  "",
  "const MyVideo = () => (",
  "  <AbsoluteFill style=\x7b\x7b backgroundColor: C.bg \x7d\x7d>",
  "    <Sequence from=\x7b0\x7d durationInFrames=\x7b180\x7d>...</Sequence>",
  "  </AbsoluteFill>",
  ");",
  "",
  "return MyVideo;",
  "```"]

/-- How compositions look. -/
def designRules (canvas : Canvas) (fps : Int) : List String := [
  "## DESIGN SYSTEM RULES",
  "",
  "1. **Layout**: every scene is an AbsoluteFill with flexbox centering",
  "2. **Text hierarchy** (always fontFamily F):",
  "   - Headline: 44-56px, fontWeight 900",
  "   - Subhead: 24-28px, fontWeight 500-600",
  "   - Body: 16-18px, fontWeight 400-500",
  "   - Label: 14-15px, fontWeight 700, letterSpacing 3-4, uppercase",
  "3. **Colors**: the C object has bg, primary, purple, deepPurple, pink, cyan, green, orange, red, gold, warmOrange, white, gray, darkGray",
  "4. **Gradient text**: `background: linear-gradient(135deg, a, b)` with WebkitBackgroundClip \"text\" and WebkitTextFillColor \"transparent\"",
  "5. **Animation**:",
  "   - Entrances: `<FadeUp delay=\x7bframe\x7d>` springs opacity and translateY",
  "   - Exits: `useExit(exitStart, exitEnd)` returns \x7b op, y \x7d",
  "   - Custom springs: `spring(\x7b fps, frame: frame - delay, config: \x7b damping: 50-70, stiffness: 150-200 \x7d \x7d)`",
  "6. **Cards**: background `C.darkGray + \"cc\"`, border `1px solid` with the accent at 20 alpha, borderRadius 16-20",
  "7. **Transitions**: useExit starts 20-25 frames before the Sequence ends",
  "8. **Canvas**: " ++ wholeText canvas.width ++ "x" ++ wholeText canvas.height ++ " at " ++ wholeText fps ++ "fps"]

/-- What the model must do and must not do. -/
def strictRules (fps : Int) : List String := [
  "## STRICT RULES",
  "",
  "1. Output ONLY the function body: no markdown fences, no explanation text",
  "2. The code must RETURN a React component (the last line is `return MyVideo;`)",
  "3. Destructure from the Remotion, Components and Theme parameters",
  "4. Use the images array by index: `images[0]`, `images[1]`, ...",
  "5. If audioUrl is provided, add `<Audio src=\x7baudioUrl\x7d />` in the first Sequence",
  "6. Scene durations MUST match the script timing exactly (scene.duration * " ++ wholeText fps ++ " = frames)",
  "7. Use the provided color palette, not arbitrary colors",
  "8. Every scene except the last MUST have an exit transition via useExit",
  "9. All text must be centered (CenterScene handles this)",
  "10. No fetch(), eval(), require(), import(), new Function, process., fs., child_process, window, document or storage APIs",
  "11. Total frames across all Sequences must equal the total specified"]

/-- Lines as text, each with its end. -/
def paragraph (lines : List String) : String := String.join (lines.map (· ++ "\n"))

/-- The system prompt for a canvas and a frame rate. -/
def system (canvas : Canvas) (fps : Int) : String :=
  String.intercalate "\n" <| [outputContract, designRules canvas fps, catalog, explainerExample,
    numbersExample, imageExample, strictRules fps].map paragraph

end Storyboard.Prompt
