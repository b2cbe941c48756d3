/-!
# The component catalog

The components that a host offers to composition code, as a prompt lists them.
-/

namespace Storyboard.Prompt

/-- The lines of the catalog. -/
def catalog : List String := [
  "## COMPONENT LIBRARY",
  "",
  "### Layout",
  "- **CenterScene**: main scene wrapper with BG, grid, orbs and scanline. Props: `\x7b children, opacity?, translateY?, seed?, tint?, orbColors?, padding? \x7d`",
  "- **Content**: overlay wrapper for image-backed scenes (pair with CinematicBG). Props: `\x7b children, opacity?, translateY? \x7d`",
  "",
  "### Background",
  "- **BG**: grid + orbs + scanline. Props: `\x7b seed?, tint?, orbColors? \x7d` (already inside CenterScene)",
  "- **CinematicBG**: Ken Burns zoom/pan over an image. Props: `\x7b src, startScale?, endScale?, startX?, endX?, startY?, endY?, overlayOpacity? \x7d`",
  "- **GlowOrb**: floating ambient orb. Props: `\x7b x, y, size, color, delay \x7d`",
  "- **GridPattern**: subtle grid lines. Props: `\x7b opacity?, color? \x7d`",
  "- **ScanLine**: animated horizontal line. Props: `\x7b color?, speed? \x7d`",
  "",
  "### Animation",
  "- **FadeUp**: spring fade + translateY entrance. Props: `\x7b children, delay, style? \x7d`; delay counts frames from the Sequence start",
  "- **useExit(exitStart, exitEnd, exitY?)**: hook returning `\x7b op, y \x7d`",
  "",
  "### Cards",
  "- **FeatureCard**: `\x7b icon, title, desc, delay \x7d`",
  "- **StepRow**: `\x7b step: \x7b time, icon, text, color \x7d, delay \x7d`",
  "- **ReasonCard**: `\x7b item: \x7b icon, title, desc \x7d, delay \x7d`",
  "- **TierCard**: `\x7b tier: \x7b name, price, color, features: string[] \x7d, delay \x7d`",
  "",
  "### Stats",
  "- **StatCounter**: `\x7b value, label, delay \x7d`",
  "- **StatBlock**: `\x7b value, label, color, delay \x7d`",
  "- **StatBig**: `\x7b value, label, color, delay \x7d`",
  "",
  "### Typography",
  "- **GradientText**: `\x7b children, from, to, style? \x7d`",
  "- **SectionLabel**: `\x7b children, color, style? \x7d`",
  "",
  "### Call to action",
  "- **CTAButton**: pulsing gradient button. `\x7b children, delay, gradientFrom?, gradientTo?, glowColor? \x7d`",
  "- **LogoIcon**: play icon in a gradient box. `\x7b delay, size?, gradientFrom?, gradientTo?, gradientVia?, glowColor? \x7d`",
  "",
  "### Other",
  "- **ConnectorLine**: animated vertical connector. `\x7b delay, color \x7d`",
  "- **WaveformVisual**: SVG sine wave. `\x7b delay, distorted? \x7d`"]

end Storyboard.Prompt
