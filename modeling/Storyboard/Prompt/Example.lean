/-!
# Worked examples

Whole compositions that a prompt shows: one of texts alone, one with numbers, one
over images.
-/

namespace Storyboard.Prompt

/-- The lines of the example that explains a product in text. -/
def explainerExample : List String := [
  "## EXAMPLE 1: Text-only feature explainer",
  "",
  "```",
  "const \x7b AbsoluteFill, Sequence, useCurrentFrame, interpolate \x7d = Remotion;",
  "const \x7b CenterScene, FadeUp, useExit, LogoIcon, CTAButton \x7d = Components;",
  "const \x7b C, F \x7d = Theme;",
  "",
  "const HookScene = () => \x7b",
  "  const \x7b op, y \x7d = useExit(130, 150);",
  "  return (",
  "    <CenterScene opacity=\x7bop\x7d translateY=\x7by\x7d>",
  "      <FadeUp delay=\x7b8\x7d style=\x7b\x7b fontSize: 26, color: C.gray, fontFamily: F, fontWeight: 500, marginBottom: 20 \x7d\x7d>",
  "        50,000 Instagram followers.",
  "      </FadeUp>",
  "      <FadeUp delay=\x7b25\x7d style=\x7b\x7b fontSize: 26, color: C.gray, fontFamily: F, fontWeight: 500, marginBottom: 36 \x7d\x7d>",
  "        $200 a month in sales.",
  "      </FadeUp>",
  "      <FadeUp delay=\x7b50\x7d>",
  "        <div style=\x7b\x7b fontSize: 48, fontWeight: 900, fontFamily: F, lineHeight: 1.15, color: C.white \x7d\x7d>",
  "          Your email list is the\x7b\" \"\x7d",
  "          <span style=\x7b\x7b background: \"linear-gradient(135deg, \" + C.green + \", \" + C.cyan + \")\", WebkitBackgroundClip: \"text\", WebkitTextFillColor: \"transparent\" \x7d\x7d>real business.</span>",
  "        </div>",
  "      </FadeUp>",
  "    </CenterScene>",
  "  );",
  "\x7d;",
  "",
  "const CTAScene = () => \x7b",
  "  const frame = useCurrentFrame();",
  "  const urlOp = interpolate(frame, [75, 90], [0, 1], \x7b extrapolateLeft: \"clamp\", extrapolateRight: \"clamp\" \x7d);",
  "  return (",
  "    <CenterScene>",
  "      <LogoIcon delay=\x7b10\x7d />",
  "      <FadeUp delay=\x7b22\x7d>",
  "        <div style=\x7b\x7b fontSize: 40, fontWeight: 900, fontFamily: F, color: C.white \x7d\x7d>Start building today.</div>",
  "      </FadeUp>",
  "      <div style=\x7b\x7b marginTop: 44 \x7d\x7d>",
  "        <CTAButton delay=\x7b55\x7d>Get Started</CTAButton>",
  "      </div>",
  "      <div style=\x7b\x7b opacity: urlOp, marginTop: 24, fontSize: 18, color: C.gray, fontFamily: \"monospace\" \x7d\x7d>academy.pauseplayrepeat.com</div>",
  "    </CenterScene>",
  "  );",
  "\x7d;",
  "",
  "const MyVideo = () => (",
  "  <AbsoluteFill style=\x7b\x7b backgroundColor: C.bg \x7d\x7d>",
  "    <Sequence from=\x7b0\x7d durationInFrames=\x7b150\x7d><HookScene /></Sequence>",
  "    <Sequence from=\x7b150\x7d durationInFrames=\x7b300\x7d><CTAScene /></Sequence>",
  "  </AbsoluteFill>",
  ");",
  "",
  "return MyVideo;",
  "```"]

/-- The lines of the example that shows numbers. -/
def numbersExample : List String := [
  "## EXAMPLE 2: Stat-heavy course promo",
  "",
  "```",
  "const \x7b AbsoluteFill, Sequence \x7d = Remotion;",
  "const \x7b CenterScene, FadeUp, useExit, StatBlock, WaveformVisual \x7d = Components;",
  "const \x7b C, F \x7d = Theme;",
  "",
  "const SAT_ORBS = [C.red, C.warmOrange];",
  "",
  "const HookScene = () => \x7b",
  "  const \x7b op, y \x7d = useExit(155, 180);",
  "  return (",
  "    <CenterScene opacity=\x7bop\x7d translateY=\x7by\x7d tint=\x7bC.orange\x7d orbColors=\x7bSAT_ORBS\x7d>",
  "      <FadeUp delay=\x7b8\x7d style=\x7b\x7b fontSize: 24, color: C.gray, fontFamily: F, fontWeight: 500, marginBottom: 20 \x7d\x7d>Every hit record uses it.</FadeUp>",
  "      <FadeUp delay=\x7b48\x7d>",
  "        <div style=\x7b\x7b fontSize: 50, fontWeight: 900, fontFamily: F, lineHeight: 1.1, color: C.white \x7d\x7d>Saturation &amp; Distortion</div>",
  "      </FadeUp>",
  "      <FadeUp delay=\x7b78\x7d style=\x7b\x7b width: \"100%\" \x7d\x7d>",
  "        <WaveformVisual delay=\x7b78\x7d distorted />",
  "      </FadeUp>",
  "    </CenterScene>",
  "  );",
  "\x7d;",
  "",
  "const StatsScene = () => (",
  "  <CenterScene seed=\x7b5\x7d>",
  "    <FadeUp delay=\x7b5\x7d style=\x7b\x7b fontSize: 14, color: C.green, fontWeight: 700, letterSpacing: 4, textTransform: \"uppercase\", fontFamily: F, marginBottom: 10 \x7d\x7d>THE RESULTS</FadeUp>",
  "    <FadeUp delay=\x7b10\x7d style=\x7b\x7b fontSize: 36, fontWeight: 800, color: C.white, fontFamily: F, marginBottom: 50 \x7d\x7d>Numbers don't lie.</FadeUp>",
  "    <div style=\x7b\x7b display: \"flex\", justifyContent: \"space-around\", width: \"100%\" \x7d\x7d>",
  "      <StatBlock value=\"1,200+\" label=\"students\" color=\x7bC.green\x7d delay=\x7b25\x7d />",
  "      <StatBlock value=\"4.9\" label=\"avg rating\" color=\x7bC.primary\x7d delay=\x7b45\x7d />",
  "    </div>",
  "  </CenterScene>",
  ");",
  "",
  "const MyVideo = () => (",
  "  <AbsoluteFill style=\x7b\x7b backgroundColor: C.bg \x7d\x7d>",
  "    <Sequence from=\x7b0\x7d durationInFrames=\x7b180\x7d><HookScene /></Sequence>",
  "    <Sequence from=\x7b180\x7d durationInFrames=\x7b240\x7d><StatsScene /></Sequence>",
  "  </AbsoluteFill>",
  ");",
  "",
  "return MyVideo;",
  "```"]

/-- The lines of the example over images. -/
def imageExample : List String := [
  "## EXAMPLE 3: Image-backed product promo",
  "",
  "```",
  "const \x7b AbsoluteFill, Sequence, Audio \x7d = Remotion;",
  "const \x7b Content, CinematicBG, FadeUp, useExit, TierCard \x7d = Components;",
  "const \x7b C, F \x7d = Theme;",
  "",
  "const ImageScene = () => \x7b",
  "  const \x7b op, y \x7d = useExit(155, 180);",
  "  return (",
  "    <AbsoluteFill style=\x7b\x7b opacity: op, transform: \"translateY(\" + y + \"px)\" \x7d\x7d>",
  "      <CinematicBG src=\x7bimages[0]\x7d overlayOpacity=\x7b0.6\x7d />",
  "      <Content>",
  "        <FadeUp delay=\x7b8\x7d>",
  "          <div style=\x7b\x7b fontSize: 48, fontWeight: 900, fontFamily: F, color: C.white, textShadow: \"0 2px 20px rgba(0,0,0,0.8)\" \x7d\x7d>Own your sound.</div>",
  "        </FadeUp>",
  "      </Content>",
  "    </AbsoluteFill>",
  "  );",
  "\x7d;",
  "",
  "const PricingScene = () => (",
  "  <AbsoluteFill>",
  "    <CinematicBG src=\x7bimages[1]\x7d overlayOpacity=\x7b0.75\x7d />",
  "    <Content>",
  "      <TierCard tier=\x7b\x7b name: \"Premium\", price: \"$49\", color: C.gold, features: [\"WAV + stems\", \"Unlimited streams\"] \x7d\x7d delay=\x7b12\x7d />",
  "    </Content>",
  "  </AbsoluteFill>",
  ");",
  "",
  "const MyVideo = () => (",
  "  <AbsoluteFill style=\x7b\x7b backgroundColor: C.bg \x7d\x7d>",
  "    <Sequence from=\x7b0\x7d durationInFrames=\x7b180\x7d>",
  "      <Audio src=\x7baudioUrl\x7d />",
  "      <ImageScene />",
  "    </Sequence>",
  "    <Sequence from=\x7b180\x7d durationInFrames=\x7b150\x7d><PricingScene /></Sequence>",
  "  </AbsoluteFill>",
  ");",
  "",
  "return MyVideo;",
  "```"]

end Storyboard.Prompt
