import Mathlib.Data.List.Forall2
import Storyboard.Proofs.Lettering
import Storyboard.Proofs.Markup
import Storyboard.Proofs.Results
import Storyboard.Prompt.Words

/-!
# What the section on the spoken words shows

A track is listed in whole, or by its two ends with a line that counts the words in between. The
moments are the first of the words that mark one, each with its neighbours. Both are stated by
places in the track: a list of places that ascends and holds exactly those that fit leaves no room
for a word that is missing, shown twice or out of order.
-/

namespace Storyboard.Prompt

open Decimal (NumberFault wholeText)
open Results (bind_ok_iff map_ok_iff)
open Text (IsWide)

section Marking

/-- The word marks a moment: in lower case, and without the end marks behind it, it marks a turn
or has more than six characters. -/
def MarksMoment (word : String) : Prop :=
  ∃ bare tail, Text.lowerCase word.toList = bare ++ tail ∧ (∀ c ∈ tail, isEndMark c = true) ∧
    (∀ c ∈ bare.getLast?, isEndMark c = false) ∧
    (String.ofList bare ∈ turningWords ∨ 6 < bare.length)

theorem marksMoment_iff {word : String} :
    MarksMoment word ↔
      String.ofList (Text.trimEndWhere isEndMark (Text.lowerCase word.toList)) ∈ turningWords ∨
        6 < (Text.trimEndWhere isEndMark (Text.lowerCase word.toList)).length := by
  constructor
  · rintro ⟨bare, tail, htext, htail, hlast, hmarks⟩
    rwa [Text.trimEndWhere_eq_iff.mpr ⟨hlast, tail, htext, htail⟩]
  · intro hmarks
    obtain ⟨hlast, tail, htext, htail⟩ := Text.trimEndWhere_eq_iff.mp rfl
    exact ⟨_, tail, htext, htail, hlast, hmarks⟩

theorem isEndMark_wide {c : Char} (h : IsWide c) : isEndMark c = false := by
  simp only [isEndMark, Bool.or_eq_false_iff, beq_eq_false_iff_ne, ne_eq]
  refine ⟨⟨⟨?_, ?_⟩, ?_⟩, ?_⟩ <;>
  · rintro rfl
    exact absurd h (by unfold IsWide; decide)

theorem turningWords_ascii : ∀ word ∈ turningWords, ∀ c ∈ word.toList, ¬ IsWide c := by
  have hall : (turningWords.all fun word => word.toList.all fun c => c.toNat < 0x80) = true := by
    decide
  intro word hword c hc
  have hlow := List.all_eq_true.mp (List.all_eq_true.mp hall word hword) c hc
  simpa [IsWide] using hlow

/-- To find the moments, lower case as far as ASCII can tell it is enough. -/
theorem isMoment_iff {word : String} : isMoment word = true ↔ MarksMoment word := by
  have halike := Text.alike_trimEndWhere (fun _ => isEndMark_wide)
    (Text.alike_lowerCase word.toList)
  have hchars : (Text.lower word).toList = Text.lowerChars word.toList := String.toList_ofList
  rw [marksMoment_iff, Text.mem_words_iff_of_alike turningWords_ascii halike, halike.length_eq,
    isMoment, Bool.or_eq_true, decide_eq_true_eq, decide_eq_true_eq, Text.trimEnd, hchars,
    String.length_ofList]
  rfl

end Marking

section Places

/-- The places are those that fit, each once and in order. -/
structure ListsExactly (places : List Nat) (fits : Nat → Prop) : Prop where
  ascending : places.Pairwise (· < ·)
  mem_iff : ∀ place, place ∈ places ↔ fits place

/-- The words of a track at these places. -/
def wordsAt (track : List FramedWord) (places : List Nat) : List FramedWord :=
  places.filterMap (track[·]?)

variable {track : List FramedWord} {first count : Nat}

theorem wordsAt_range' (h : first + count ≤ track.length) :
    wordsAt track (List.range' first count) = (track.drop first).take count := by
  induction count generalizing first with
  | zero => rfl
  | succ count ih =>
    have hlt : first < track.length := by omega
    rw [wordsAt, List.range'_succ, List.filterMap_cons_some (List.getElem?_eq_getElem hlt),
      List.drop_eq_getElem_cons hlt, List.take_succ_cons]
    exact congrArg (List.cons _) (ih (by omega))

end Places

section Timeline

variable {track : List FramedWord}

/-- The lines of the timeline. A short track is listed in whole; of a long one the words at its
two ends are, and a line between them counts the others. -/
structure ListsTrack (track : List FramedWord) (lines : List String) : Prop where
  short : track.length ≤ 35 → lines = track.map FramedWord.line
  long : 35 < track.length → ∃ head tail left,
    ListsExactly (head ++ tail)
      (fun place => place < track.length ∧ (place < 20 ∨ track.length - 10 ≤ place)) ∧
    (∀ place ∈ head, place < 20) ∧ (∀ place ∈ tail, track.length - 10 ≤ place) ∧
    left = (List.range track.length).countP (· ∉ head ++ tail) ∧
    lines = (wordsAt track head).map FramedWord.line ++
      elisionLine left :: (wordsAt track tail).map FramedWord.line

theorem listsExactly_ends {count : Nat} (h : 30 ≤ count) :
    ListsExactly (List.range' 0 20 ++ List.range' (count - 10) 10)
      fun place => place < count ∧ (place < 20 ∨ count - 10 ≤ place) := by
  refine ⟨List.pairwise_append.mpr ⟨List.pairwise_lt_range', List.pairwise_lt_range', ?_⟩, ?_⟩
  · intro first hfirst second hsecond
    rw [List.mem_range'_1] at hfirst hsecond
    omega
  · intro place
    rw [List.mem_append, List.mem_range'_1, List.mem_range'_1]
    omega

/-- The places that are not among the ends are those in between. -/
theorem countP_between {count : Nat} (h : 30 ≤ count) :
    (List.range count).countP (· ∉ List.range' 0 20 ++ List.range' (count - 10) 10) =
      count - 30 := by
  have hsplit : List.range count =
      List.range' 0 20 ++ List.range' 20 (count - 30) ++ List.range' (count - 10) 10 := by
    have hbehind : count - 10 = 0 + (20 + (count - 30)) := by omega
    have hcount : count = 20 + (count - 30) + 10 := by omega
    calc
      List.range count = List.range' 0 (20 + (count - 30) + 10) := by
        rw [List.range_eq_range', ← hcount]
      _ = List.range' 0 20 ++ List.range' (0 + 20) (count - 30) ++
          List.range' (0 + (20 + (count - 30))) 10 := by
        rw [List.range'_append_1, List.range'_append_1]
      _ = _ := by rw [← hbehind]
  rw [hsplit, List.countP_append, List.countP_append, List.countP_eq_zero.mpr,
    List.countP_eq_length.mpr, List.countP_eq_zero.mpr, List.length_range', Nat.zero_add,
    Nat.add_zero]
  · simp +contextual
  · intro place hplace
    rw [List.mem_range'_1] at hplace
    simp only [decide_eq_true_eq, List.mem_append, List.mem_range'_1]
    omega
  · simp +contextual

theorem timelineLines_lists (track : List FramedWord) : ListsTrack track (timelineLines track) := by
  refine ⟨fun hshort => if_neg (Nat.not_lt.mpr hshort), fun hlong => ?_⟩
  have hlong' : longestTrack < track.length := hlong
  refine ⟨_, _, _, listsExactly_ends (by omega), ?_, ?_, rfl, ?_⟩
  · intro place hplace
    exact (List.mem_range'_1.mp hplace).2
  · intro place hplace
    exact (List.mem_range'_1.mp hplace).1
  · have htail : (track.drop (track.length - 10)).take 10 = track.drop (track.length - 10) := by
      refine List.take_of_length_le ?_
      rw [List.length_drop]
      omega
    rw [countP_between (by omega), wordsAt_range' (by omega), wordsAt_range' (by omega), htail,
      timelineLines, if_pos hlong', List.drop_zero, List.map_take, List.map_drop]
    rfl

end Timeline

section Moments

variable {track : List FramedWord} {place : Nat}

/-- The word at this place of the track marks a moment. -/
def IsMomentAt (track : List FramedWord) (place : Nat) : Prop :=
  ∃ word, track[place]? = some word ∧ MarksMoment word.timing.word

/-- The line shows the moment at this place: the words from two before it to two behind it, and
the frame of the word. -/
def ShowsMoment (track : List FramedWord) (place : Nat) (line : String) : Prop :=
  ∃ word around context, track[place]? = some word ∧
    ListsExactly around
      (fun near => place - 2 ≤ near ∧ near ≤ min (track.length - 1) (place + 2)) ∧
    context = " ".intercalate ((wordsAt track around).map (·.timing.word)) ∧
    line = s!"  - \"{context}\" → frame {wholeText word.frame} ({word.seconds})"

/-- The lines show the first fifteen moments of the track, or all if there are fewer; without a
moment, one line stands in. -/
def ShowsMoments (track : List FramedWord) (lines : List String) : Prop :=
  ∃ places, ListsExactly places (IsMomentAt track) ∧
    (places = [] ∧ lines = [noMomentLine] ∨
      places ≠ [] ∧ List.Forall₂ (ShowsMoment track) (places.take 15) lines)

theorem momentIndices_lists (track : List FramedWord) :
    ListsExactly (momentIndices track) (IsMomentAt track) := by
  refine ⟨List.pairwise_lt_range.filter _, fun place => ?_⟩
  rw [momentIndices, List.mem_filter, List.mem_range, IsMomentAt]
  constructor
  · rintro ⟨hlt, hmarks⟩
    rw [List.getElem?_eq_getElem hlt, Option.any_some, isMoment_iff] at hmarks
    exact ⟨_, List.getElem?_eq_getElem hlt, hmarks⟩
  · rintro ⟨word, hword, hmarks⟩
    obtain ⟨hlt, _⟩ := List.getElem?_eq_some_iff.mp hword
    rw [hword, Option.any_some, isMoment_iff]
    exact ⟨hlt, hmarks⟩

/-- The places from two before a place to two behind it. -/
def nearby (track : List FramedWord) (place : Nat) : List Nat :=
  List.range' (place - 2) (min track.length (place + 3) - (place - 2))

theorem nearby_lists (h : place < track.length) : ListsExactly (nearby track place)
    fun near => place - 2 ≤ near ∧ near ≤ min (track.length - 1) (place + 2) := by
  refine ⟨List.pairwise_lt_range', fun near => ?_⟩
  rw [nearby, List.mem_range'_1]
  omega

theorem contextOf_eq (h : place < track.length) :
    contextOf track place =
      " ".intercalate ((wordsAt track (nearby track place)).map (·.timing.word)) := by
  have hcount : min (place + contextReach + 1 - (place - 2)) (track.length - (place - 2)) =
      min (min track.length (place + 3) - (place - 2)) (track.length - (place - 2)) := by
    unfold contextReach
    omega
  rw [nearby, wordsAt_range' (by omega), List.take_eq_take_min, List.length_drop, ← hcount,
    ← List.length_drop, ← List.take_eq_take_min, ← List.drop_take]
  rfl

theorem momentLine_shows (h : place < track.length) :
    ShowsMoment track place (momentLine track place) := by
  have hword := List.getElem?_eq_getElem h
  refine ⟨_, _, _, hword, nearby_lists h, rfl, ?_⟩
  rw [momentLine, hword, contextOf_eq h]

theorem momentLines_shows (track : List FramedWord) : ShowsMoments track (momentLines track) := by
  have hlists := momentIndices_lists track
  refine ⟨_, hlists, ?_⟩
  unfold momentLines
  cases hplaces : momentIndices track with
  | nil => exact .inl ⟨rfl, rfl⟩
  | cons first rest =>
    refine .inr ⟨List.cons_ne_nil _ _, ?_⟩
    have hlines : List.Forall₂ (ShowsMoment track) ((first :: rest).take momentLimit)
        (((first :: rest).take momentLimit).map (momentLine track)) := by
      rw [List.forall₂_map_right_iff, List.forall₂_same]
      intro place hplace
      have hmem := List.mem_of_mem_take hplace
      rw [← hplaces, hlists.mem_iff] at hmem
      obtain ⟨word, hword, _⟩ := hmem
      exact momentLine_shows (List.getElem?_eq_some_iff.mp hword).1
    exact hlines

end Moments

section Wording

variable {words : List WordTiming} {track : List FramedWord} {fps : Int}

/-- Each word of the track is one of the words, with the frame at which it starts. -/
def Framed (fps : Int) (words : List WordTiming) (track : List FramedWord) : Prop :=
  List.Forall₂ (fun timing word => word.timing = timing ∧ frameAt timing.start fps = .ok word.frame)
    words track

theorem Framed.timings (h : Framed fps words track) : track.map (·.timing) = words := by
  have htimings : List.Forall₂ (fun word timing => word.timing = timing) track words :=
    List.Forall₂.flip (h.imp fun _ _ hframed => hframed.1)
  rwa [← List.forall₂_map_left_iff (f := FramedWord.timing), List.forall₂_eq_eq_eq] at htimings

theorem framed_of_ok (h : framedWords fps words = .ok track) : Framed fps words track := by
  induction words generalizing track with
  | nil =>
    obtain rfl := Except.ok.inj h
    exact .nil
  | cons timing rest ih =>
    rw [framedWords, List.mapM_cons] at h
    obtain ⟨word, hword, htrack⟩ := bind_ok_iff.mp h
    obtain ⟨later, hlater, hcons⟩ := bind_ok_iff.mp htrack
    obtain ⟨frame, hframe, hmade⟩ := bind_ok_iff.mp hword
    obtain rfl := Except.ok.inj hmade
    obtain rfl := Except.ok.inj hcons
    exact .cons ⟨rfl, hframe⟩ (ih hlater)

/-- The lines of a section on this many words. -/
def sectionLines (count : Nat) (timeline moments : List String) : List String :=
  [s!"### Word timeline ({count} words)"] ++ (if timeline.isEmpty then [""] else timeline) ++
    ["", "### Key moments (animation triggers)"] ++ moments ++
    ["Start visuals 0-15 frames BEFORE the matching word is spoken.", ""]

theorem momentLines_ne_nil (track : List FramedWord) : momentLines track ≠ [] := by
  unfold momentLines
  split
  · exact List.cons_ne_nil _ _
  · next hnot => simpa using hnot

theorem intercalate_orBlank (lines : List String) :
    "\n".intercalate (if lines.isEmpty then [""] else lines) = "\n".intercalate lines := by
  cases lines with
  | nil => rfl
  | cons line rest => rfl

theorem orBlank_ne_nil (lines : List String) : (if lines.isEmpty then [""] else lines) ≠ [] := by
  cases lines with
  | nil => decide
  | cons line rest => exact List.cons_ne_nil _ _

theorem section_eq {text : String} (h : wordSection words fps = .ok text) :
    ∃ track, Framed fps words track ∧ text = "\n".intercalate
      (sectionLines words.length (timelineLines track) (momentLines track)) := by
  obtain ⟨track, htrack, htext⟩ := bind_ok_iff.mp h
  refine ⟨track, framed_of_ok htrack, ?_⟩
  obtain rfl := Except.ok.inj htext
  have htimeline := orBlank_ne_nil (timelineLines track)
  have hmoments := momentLines_ne_nil track
  rw [sectionLines, String.intercalate_append_of_ne_nil (by simp) (by simp),
    String.intercalate_append_of_ne_nil (by simp) hmoments,
    String.intercalate_append_of_ne_nil (by simp) (by simp),
    String.intercalate_append_of_ne_nil (by simp) htimeline, intercalate_orBlank]
  have hheading : " words)\n" = " words)" ++ "\n" := rfl
  have hbetween : "\n\n### Key moments (animation triggers)\n" =
      "\n" ++ ("" ++ ("\n" ++ ("### Key moments (animation triggers)" ++ "\n"))) := rfl
  have hclosing : "\nStart visuals 0-15 frames BEFORE the matching word is spoken.\n" =
      "\n" ++ ("Start visuals 0-15 frames BEFORE the matching word is spoken." ++
        ("\n" ++ "")) := rfl
  simp only [String.intercalate_singleton, String.intercalate_cons_cons, String.append_assoc,
    hheading, hbetween, hclosing]
  rfl

end Wording

section Lines

/-- The text is one line. -/
def IsOneLine (text : String) : Prop := '\n' ∉ text.toList

instance (text : String) : Decidable (IsOneLine text) :=
  inferInstanceAs (Decidable ('\n' ∉ text.toList))

theorem isOneLine_append {first second : String} :
    IsOneLine (first ++ second) ↔ IsOneLine first ∧ IsOneLine second := by
  rw [IsOneLine, String.toList_append, List.mem_append, not_or]
  rfl

theorem isOneLine_of_isDigit {text : List Char} (h : ∀ c ∈ text, c.isDigit = true) :
    IsOneLine (String.ofList text) := by
  intro hmem
  rw [String.toList_ofList] at hmem
  exact absurd (h _ hmem) (by decide)

theorem isOneLine_toString (count : Nat) : IsOneLine (toString count) := by
  rw [Nat.toString_eq_ofList_toDigits]
  exact isOneLine_of_isDigit (fun _ => Decimal.isDigit_digitsOf)

theorem isOneLine_wholeText (n : Int) : IsOneLine (wholeText n) := by
  cases n with
  | ofNat n => exact isOneLine_of_isDigit (fun _ => Decimal.isDigit_digitsOf)
  | negSucc n =>
    intro hmem
    have htext : (wholeText (.negSucc n)).toList = '-' :: Decimal.digitsOf (n + 1) :=
      String.toList_ofList
    rw [htext, List.mem_cons] at hmem
    rcases hmem with hsign | hdigit
    · exact absurd hsign (by decide)
    · exact absurd (Decimal.isDigit_digitsOf hdigit) (by decide)

theorem notMem_pointed {digits : List Char} (h : ∀ c ∈ digits, c.isDigit = true) (whole : Nat) :
    '\n' ∉ digits.take whole ++ '.' :: digits.drop whole := by
  rw [List.mem_append, List.mem_cons, not_or, not_or]
  refine ⟨fun hbreak => ?_, by decide, fun hbreak => ?_⟩
  · exact absurd (h _ (List.mem_of_mem_take hbreak)) (by decide)
  · exact absurd (h _ (List.mem_of_mem_drop hbreak)) (by decide)

theorem isOneLine_fixedText (places : Nat) (x : Float) : IsOneLine (Decimal.fixedText places x) := by
  unfold Decimal.fixedText
  split
  · decide
  · split <;> decide
  · unfold IsOneLine
    rw [String.toList_ofList]
    split
    · rw [List.mem_cons, not_or]
      exact ⟨by decide, notMem_pointed (fun _ => Decimal.isDigit_paddedDigits) _⟩
    · exact notMem_pointed (fun _ => Decimal.isDigit_paddedDigits) _

theorem isOneLine_intercalate {separator : String} {parts : List String}
    (hs : IsOneLine separator) (h : ∀ part ∈ parts, IsOneLine part) :
    IsOneLine (separator.intercalate parts) := by
  induction parts with
  | nil =>
    rw [String.intercalate_nil]
    decide
  | cons part rest ih =>
    rw [List.forall_mem_cons] at h
    cases rest with
    | nil =>
      rw [String.intercalate_singleton]
      exact h.1
    | cons next rest =>
      rw [String.intercalate_cons_cons, isOneLine_append, isOneLine_append]
      exact ⟨⟨h.1, hs⟩, ih h.2⟩

theorem isOneLine_seconds (word : FramedWord) : IsOneLine word.seconds :=
  isOneLine_append.mpr ⟨isOneLine_fixedText 2 _, by decide⟩

theorem isOneLine_line {word : FramedWord} (h : IsOneLine word.timing.word) :
    IsOneLine word.line := by
  simp only [FramedWord.line, isOneLine_append]
  refine ⟨⟨⟨⟨⟨⟨?_, h⟩, ?_⟩, isOneLine_seconds word⟩, ?_⟩, isOneLine_wholeText _⟩, ?_⟩ <;> decide

theorem isOneLine_elisionLine (count : Nat) : IsOneLine (elisionLine count) := by
  simp only [elisionLine, isOneLine_append]
  exact ⟨⟨by decide, isOneLine_toString count⟩, by decide⟩

variable {track : List FramedWord}

theorem isOneLine_timelineLines (h : ∀ word ∈ track, IsOneLine word.timing.word) :
    ∀ line ∈ timelineLines track, IsOneLine line := by
  have hlines : ∀ line ∈ track.map FramedWord.line, IsOneLine line := by
    rw [List.forall_mem_map]
    exact fun word hword => isOneLine_line (h word hword)
  unfold timelineLines
  intro line hline
  split at hline
  · rcases List.mem_append.mp hline with hhead | htail
    · exact hlines line (List.mem_of_mem_take hhead)
    · rcases List.mem_cons.mp htail with rfl | htail
      · exact isOneLine_elisionLine _
      · exact hlines line (List.mem_of_mem_drop htail)
  · exact hlines line hline

theorem isOneLine_contextOf (h : ∀ word ∈ track, IsOneLine word.timing.word) (place : Nat) :
    IsOneLine (contextOf track place) := by
  refine isOneLine_intercalate (by decide) ?_
  rw [List.forall_mem_map]
  exact fun word hword => h word (List.mem_of_mem_take (List.mem_of_mem_drop hword))

theorem isOneLine_momentLine (h : ∀ word ∈ track, IsOneLine word.timing.word) (place : Nat) :
    IsOneLine (momentLine track place) := by
  unfold momentLine
  split
  · simp only [isOneLine_append]
    refine ⟨⟨⟨⟨⟨⟨?_, isOneLine_contextOf h place⟩, ?_⟩, isOneLine_wholeText _⟩, ?_⟩,
      isOneLine_seconds _⟩, ?_⟩ <;> decide
  · decide

theorem isOneLine_momentLines (h : ∀ word ∈ track, IsOneLine word.timing.word) :
    ∀ line ∈ momentLines track, IsOneLine line := by
  unfold momentLines
  intro line hline
  split at hline
  · obtain rfl := List.mem_singleton.mp hline
    decide
  · obtain ⟨place, _, rfl⟩ := List.mem_map.mp hline
    exact isOneLine_momentLine h place

theorem isOneLine_sectionLines (h : ∀ word ∈ track, IsOneLine word.timing.word) (count : Nat) :
    ∀ line ∈ sectionLines count (timelineLines track) (momentLines track), IsOneLine line := by
  have hheading : IsOneLine s!"### Word timeline ({count} words)" := by
    simp only [isOneLine_append]
    exact ⟨⟨by decide, isOneLine_toString count⟩, by decide⟩
  have htimeline : ∀ line ∈ (if (timelineLines track).isEmpty then [""] else timelineLines track),
      IsOneLine line := by
    split
    · decide
    · exact isOneLine_timelineLines h
  simp only [sectionLines, List.mem_append]
  rintro line ((((hline | hline) | hline) | hline) | hline)
  · rwa [List.mem_singleton.mp hline]
  · exact htimeline line hline
  · revert line
    decide
  · exact isOneLine_momentLines h line hline
  · revert line
    decide

/-- The lines of a section are what its text is split into. -/
theorem splitOn_section (h : ∀ word ∈ track, IsOneLine word.timing.word) (count : Nat) :
    ("\n".intercalate (sectionLines count (timelineLines track) (momentLines track))).toList.splitOn
      '\n' = (sectionLines count (timelineLines track) (momentLines track)).map String.toList := by
  rw [String.toList_intercalate]
  refine List.splitOn_intercalate '\n' ?_ (by simp [sectionLines])
  rw [List.forall_mem_map]
  exact isOneLine_sectionLines h count

end Lines

section Placeholder

variable {track : List FramedWord}

/-- A line that shows words in quotes is not the one that stands in for moments. -/
theorem ne_noMomentLine {line : String} (h : "  - \"".toList <+: line.toList) :
    line ≠ noMomentLine := by
  rintro rfl
  revert h
  decide

theorem line_ne_noMomentLine (word : FramedWord) : word.line ≠ noMomentLine := by
  refine ne_noMomentLine ?_
  simp only [FramedWord.line, String.toList_append, List.append_assoc]
  exact List.prefix_append _ _

theorem momentLine_ne_noMomentLine (place : Nat) : momentLine track place ≠ noMomentLine := by
  unfold momentLine
  split
  · refine ne_noMomentLine ?_
    simp only [String.toList_append, List.append_assoc]
    exact List.prefix_append _ _
  · decide

theorem elisionLine_ne_noMomentLine (count : Nat) : elisionLine count ≠ noMomentLine := by
  intro he
  have hchar := congrArg (fun line => line.toList[2]?) he
  simp [elisionLine, noMomentLine, toString] at hchar

theorem noMomentLine_notMem_timelineLines (track : List FramedWord) :
    noMomentLine ∉ timelineLines track := by
  have hlines : noMomentLine ∉ track.map FramedWord.line := by
    intro hmem
    obtain ⟨word, _, hline⟩ := List.mem_map.mp hmem
    exact line_ne_noMomentLine word hline
  unfold timelineLines
  intro hmem
  split at hmem
  · rcases List.mem_append.mp hmem with hhead | htail
    · exact hlines (List.mem_of_mem_take hhead)
    · rcases List.mem_cons.mp htail with helision | htail
      · exact elisionLine_ne_noMomentLine _ helision.symm
      · exact hlines (List.mem_of_mem_drop htail)
  · exact hlines hmem

theorem noMomentLine_mem_momentLines :
    noMomentLine ∈ momentLines track ↔ ∀ place, ¬ IsMomentAt track place := by
  have hlists := momentIndices_lists track
  unfold momentLines
  cases hplaces : momentIndices track with
  | nil =>
    rw [hplaces] at hlists
    have hnone (place : Nat) : ¬ IsMomentAt track place :=
      fun hmoment => absurd ((hlists.mem_iff place).mpr hmoment) List.not_mem_nil
    exact iff_of_true List.mem_cons_self hnone
  | cons first rest =>
    rw [hplaces] at hlists
    have hmoment : IsMomentAt track first := (hlists.mem_iff first).mp List.mem_cons_self
    refine iff_of_false (fun hmem => ?_) fun hnone => hnone first hmoment
    obtain ⟨place, _, hline⟩ := List.mem_map.mp hmem
    exact momentLine_ne_noMomentLine place hline

theorem noMomentLine_mem_sectionLines (count : Nat) :
    noMomentLine ∈ sectionLines count (timelineLines track) (momentLines track) ↔
      ∀ place, ¬ IsMomentAt track place := by
  have hheading : noMomentLine ≠ s!"### Word timeline ({count} words)" := by
    intro he
    have hchar := congrArg (fun line => line.toList[0]?) he
    simp [noMomentLine, toString] at hchar
  have htimeline : noMomentLine ∉
      (if (timelineLines track).isEmpty then [""] else timelineLines track) := by
    split
    · decide
    · exact noMomentLine_notMem_timelineLines track
  have hbetween : noMomentLine ∉ ["", "### Key moments (animation triggers)"] := by decide
  have hclosing :
      noMomentLine ∉ ["Start visuals 0-15 frames BEFORE the matching word is spoken.", ""] := by
    decide
  simp only [sectionLines, List.mem_append, List.mem_singleton, hheading, htimeline, hbetween,
    hclosing, false_or, or_false]
  exact noMomentLine_mem_momentLines

end Placeholder

/-- What the lines of a section say of a track. -/
structure Describes (track : List FramedWord) (timeline moments : List String) : Prop where
  listed : ListsTrack track timeline
  shown : ShowsMoments track moments
  /-- The line that stands in for moments is there exactly if there are none. -/
  standIn : noMomentLine ∈ sectionLines track.length timeline moments ↔
    ∀ place, ¬ IsMomentAt track place

/-- The section on the spoken words lists the track and shows its moments. If each word is one
line, these are the lines that its text is split into. -/
theorem word_section_describes_track {words : List WordTiming} {fps : Int} {text : String}
    (h : wordSection words fps = .ok text) :
    ∃ track timeline moments, Framed fps words track ∧ Describes track timeline moments ∧
      text = "\n".intercalate (sectionLines words.length timeline moments) ∧
      ((∀ timing ∈ words, IsOneLine timing.word) →
        text.toList.splitOn '\n' =
          (sectionLines words.length timeline moments).map String.toList) := by
  obtain ⟨track, hframed, rfl⟩ := section_eq h
  have hdescribes : Describes track (timelineLines track) (momentLines track) :=
    ⟨timelineLines_lists track, momentLines_shows track, noMomentLine_mem_sectionLines _⟩
  refine ⟨track, _, _, hframed, hdescribes, rfl, fun hlines => splitOn_section ?_ _⟩
  intro word hword
  refine hlines word.timing ?_
  rw [← hframed.timings]
  exact List.mem_map_of_mem hword

/-- A track of thirty-six words, the first of which marks a moment. -/
def longTrack : List WordTiming :=
  ⟨"However,", 1.5, 2⟩ :: List.replicate 35 ⟨"hi", 2, 3⟩

theorem marksMoment_however : MarksMoment "However," := by
  refine marksMoment_iff.mpr (.inl ?_)
  decide +kernel

/-- The words in between are left out, and no line stands in for the moments. -/
theorem longTrack_is_described : ∃ text track timeline moments,
    wordSection longTrack frameRate = .ok text ∧ Framed frameRate longTrack track ∧
    35 < track.length ∧ Describes track timeline moments ∧
    text.toList.splitOn '\n' = (sectionLines 36 timeline moments).map String.toList ∧
    noMomentLine.toList ∉ text.toList.splitOn '\n' := by
  obtain ⟨text, htext⟩ : ∃ text, wordSection longTrack frameRate = .ok text := ⟨_, rfl⟩
  obtain ⟨track, timeline, moments, hframed, hdescribes, _, hsplit⟩ :=
    word_section_describes_track htext
  have hlines : ∀ timing ∈ longTrack, IsOneLine timing.word := by
    rw [longTrack, List.forall_mem_cons]
    refine ⟨by decide, fun timing htiming => ?_⟩
    rw [List.eq_of_mem_replicate htiming]
    decide
  have hlength : track.length = longTrack.length := by
    rw [← hframed.timings, List.length_map]
  have hfirst : IsMomentAt track 0 := by
    cases hframed with
    | cons hword _ => exact ⟨_, rfl, hword.1.symm ▸ marksMoment_however⟩
  refine ⟨text, track, timeline, moments, htext, hframed, ?_, hdescribes, hsplit hlines, ?_⟩
  · rw [hlength]
    decide
  · rw [hsplit hlines]
    intro hmem
    obtain ⟨line, hline, hsame⟩ := List.mem_map.mp hmem
    obtain rfl := String.toList_inj.mp hsame
    rw [show longTrack.length = track.length from hlength.symm] at hline
    exact hdescribes.standIn.mp hline 0 hfirst

end Storyboard.Prompt
