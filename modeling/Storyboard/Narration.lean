import Storyboard.Checking.Reader

/-!
# Narration

A spoken track with the times at which its words begin and end, in seconds.
-/

namespace Storyboard

open Checking

/-- A spoken word with its times. -/
structure WordTiming where
  word : String
  start : Float
  finish : Float

/-- A spoken track. -/
structure Narration where
  url : String
  duration : Float
  words : List WordTiming

/-- Checks a spoken word. -/
def WordTiming.check : Reader WordTiming :=
  readObject "WordTimestamp" fun fields =>
    WordTiming.mk
      <$> required (.same "word") readText fields
      <*> required (.same "start") readNonNegative fields
      <*> required (.same "end") readNonNegative fields

/-- How a spoken track is called in reports. -/
def Narration.title : String := "AudioDescriptor"

/-- Checks a spoken track. -/
def Narration.check : Reader Narration :=
  readObject Narration.title fun fields =>
    Narration.mk
      <$> required ⟨"audioUrl", "audio_url"⟩ readFilledText fields
      <*> required (.same "duration") readNonNegative fields
      <*> optional (.same "words") (readList WordTiming.check) [] fields

/-- The fields of a spoken word. -/
def WordTiming.body (timing : WordTiming) : Json := .object [
  ("word", .text timing.word),
  ("start", .float timing.start),
  ("end", .float timing.finish)]

/-- The fields of a spoken track. -/
def Narration.body (narration : Narration) : Json := .object [
  ("audio_url", .text narration.url),
  ("duration", .float narration.duration),
  ("words", .list (narration.words.map WordTiming.body))]

end Storyboard
