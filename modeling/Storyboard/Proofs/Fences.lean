import Mathlib.Data.Bool.AllAny
import Storyboard.Fence
import Storyboard.Proofs.Barriers
import Storyboard.Proofs.Patterns
import Storyboard.Proofs.Trimming

/-!
# Fenced code

Code that is written between an opening line and three ticks is read back. If nothing but blanks
stands around the fences, the last three ticks close the block, whatever the code holds. If other
text stands before them, the first three ticks after the opening line do. Of any reply only a
contiguous part is taken, trimmed, and all of it if there are no three ticks.
-/

namespace Storyboard.Fence

open Text

/-- The end of a line. -/
inductive LineEnd where
  | lf
  | crlf

def LineEnd.text : LineEnd → String
  | .lf => "\n"
  | .crlf => "\r\n"

/-- A line that opens a block. -/
structure OpeningLine where
  tag : String
  pad : String
  lineEnd : LineEnd
  tag_ok : ∀ c ∈ tag.toList, isWordChar c = true ∨ c = '+' ∨ c = '-'
  pad_ok : ∀ c ∈ pad.toList, c = ' ' ∨ c = '\t'

def OpeningLine.text (opening : OpeningLine) : String :=
  "```" ++ opening.tag ++ opening.pad ++ opening.lineEnd.text

/-- Code in a block. -/
def OpeningLine.block (opening : OpeningLine) (code : String) (lineEnd : LineEnd) : String :=
  opening.text ++ code ++ lineEnd.text ++ "```"

section Opening

theorem dropWhile_run {p : Char → Bool} {run rest : List Char} (hrun : ∀ c ∈ run, p c = true)
    (hstop : ∀ c ∈ rest.head?, p c = false) : (run ++ rest).dropWhile p = rest := by
  rw [List.dropWhile_append_of_pos hrun]
  cases rest with
  | nil => rfl
  | cons c rest => exact List.dropWhile_cons_of_neg (by simp [hstop c rfl])

theorem LineEnd.isBlank_text (lineEnd : LineEnd) :
    ∀ c ∈ lineEnd.text.toList, isBlank c = true := by
  cases lineEnd <;> exact List.all_eq_true.mp (by decide)

theorem OpeningLine.toList_text (opening : OpeningLine) (rest : List Char) :
    opening.text.toList ++ rest = mark ++ (opening.tag.toList ++
      (opening.pad.toList ++ (opening.lineEnd.text.toList ++ rest))) := by
  simp [text, mark]

/-- An opening line is read as a whole. -/
theorem afterOpening?_text (opening : OpeningLine) (rest : List Char) :
    afterOpening? (opening.text.toList ++ rest) = some rest := by
  have htag : ∀ c ∈ opening.tag.toList, isTagChar c = true := fun c hc => by
    simpa [isTagChar, or_assoc] using opening.tag_ok c hc
  have hpad : ∀ c ∈ opening.pad.toList, isPad c = true := fun c hc => by
    simpa [isPad] using opening.pad_ok c hc
  have hstart : ∃ c tail, opening.lineEnd.text.toList ++ rest = c :: tail ∧
      isTagChar c = false ∧ isPad c = false := by
    cases opening.lineEnd with
    | lf => exact ⟨'\n', rest, rfl, by decide⟩
    | crlf => exact ⟨'\r', '\n' :: rest, rfl, by decide⟩
  obtain ⟨d, tail, hline, hdtag, hdpad⟩ := hstart
  have htagStop : ∀ c ∈ (opening.pad.toList ++ (d :: tail)).head?, isTagChar c = false := by
    intro c hc
    cases hp : opening.pad.toList with
    | nil =>
      obtain rfl : d = c := by simpa [hp] using hc
      exact hdtag
    | cons e pad =>
      obtain rfl : e = c := by simpa [hp] using hc
      rcases opening.pad_ok e (by simp [hp]) with rfl | rfl <;> decide
  rw [opening.toList_text, afterOpening?, if_pos (by simp), List.drop_left, hline,
    dropWhile_run htag htagStop, dropWhile_run hpad (by simpa using hdpad), ← hline]
  cases opening.lineEnd <;> rfl

end Opening

section Parts

variable {text rest inside : List Char}

theorem afterOpening?_suffix (h : afterOpening? text = some rest) : rest <:+ text := by
  have hcut : ((text.drop mark.length).dropWhile isTagChar).dropWhile isPad <:+ text :=
    (List.dropWhile_suffix _).trans ((List.dropWhile_suffix _).trans (List.drop_suffix _ _))
  rw [afterOpening?] at h
  split at h
  · split at h
    · next tail htail =>
      obtain rfl := Option.some.inj h
      exact (List.suffix_cons _ _).trans (htail ▸ hcut)
    · next tail htail =>
      obtain rfl := Option.some.inj h
      exact (List.suffix_cons _ _).trans ((List.suffix_cons _ _).trans (htail ▸ hcut))
    · cases h
  · cases h

theorem upTo?_isPrefix {closes : List Char → Bool}
    (h : Pattern.upTo? closes text = some inside) : inside <+: text := by
  obtain ⟨rest, rfl, _⟩ := Pattern.closes_of_upTo? h
  exact List.prefix_append inside rest

theorem wholeBlock?_infix (h : wholeBlock? text = some inside) : inside <:+: text := by
  obtain ⟨rest, hrest, h⟩ := Option.bind_eq_some_iff.mp h
  exact (upTo?_isPrefix h).isInfix.trans (afterOpening?_suffix hrest).isInfix

theorem firstBlock?_infix (h : firstBlock? text = some inside) : inside <:+: text := by
  induction text with
  | nil => cases h
  | cons c text ih =>
    rcases Option.or_eq_some_iff.mp h with hhere | ⟨_, hlater⟩
    · obtain ⟨rest, hrest, hinside⟩ := Option.bind_eq_some_iff.mp hhere
      exact (upTo?_isPrefix hinside).isInfix.trans (afterOpening?_suffix hrest).isInfix
    · exact (ih hlater).trans (List.suffix_cons c text).isInfix

/-- The code in a reply is a trimmed part of it. -/
theorem codeChars_isInfix (reply : List Char) : codeChars reply <:+: reply := by
  have htrim : trimChars reply <:+: reply := trimWhere_isInfix _ _
  rw [codeChars]
  split
  · next inside h =>
    refine (trimWhere_isInfix _ inside).trans (List.IsInfix.trans ?_ htrim)
    rcases Option.or_eq_some_iff.mp h with hwhole | ⟨_, hfirst⟩
    · exact wholeBlock?_infix hwhole
    · exact firstBlock?_infix hfirst
  · exact htrim

theorem codeChars_bareEnds (reply : List Char) : BareEnds isBlank (codeChars reply) := by
  rw [codeChars]
  split <;> exact trimWhere_bareEnds _ _

theorem afterOpening?_of_no_mark (h : ¬ mark <+: text) : afterOpening? text = none :=
  if_neg fun hp => h (List.isPrefixOf_iff_prefix.mp hp)

theorem firstBlock?_of_no_mark (h : ¬ mark <:+: text) : firstBlock? text = none := by
  induction text with
  | nil => rfl
  | cons c text ih =>
    have hrest : ¬ mark <:+: text := fun hm => h (hm.trans (List.suffix_cons c text).isInfix)
    rw [firstBlock?, afterOpening?_of_no_mark fun hm => h hm.isInfix, ih hrest]
    rfl

/-- A reply without three ticks is taken as a whole. -/
theorem codeChars_of_no_mark {reply : List Char} (h : ¬ mark <:+: reply) :
    codeChars reply = trimChars reply := by
  have htrim : ¬ mark <:+: trimChars reply := fun hm => h (hm.trans (trimWhere_isInfix _ _))
  rw [codeChars, wholeBlock?, afterOpening?_of_no_mark fun hm => htrim hm.isInfix,
    firstBlock?_of_no_mark htrim]
  rfl

end Parts

section Blocks

theorem isEnd_iff {text : List Char} : isEnd text = true ↔
    ∃ lineEnd ∈ [[], ['\n'], ['\r'], ['\r', '\n']], text = lineEnd ++ mark := by
  simp [isEnd]

/-- A block that spans the whole text is closed by the last three ticks of it, whatever it holds:
up to blanks its inside is what they leave of the text behind the opening line. -/
theorem wholeBlock?_trimmed {text rest : List Char} (hopens : afterOpening? text = some rest) :
    (wholeBlock? text).map trimChars =
      if mark.isSuffixOf rest then some (trimChars (rest.take (rest.length - mark.length)))
      else none := by
  rw [wholeBlock?, hopens, Option.bind_some]
  cases hinside : Pattern.upTo? isEnd rest with
  | some inside =>
    obtain ⟨closing, rfl, hend⟩ := Pattern.closes_of_upTo? hinside
    obtain ⟨lineEnd, hlineEnd, rfl⟩ := isEnd_iff.mp hend
    have hblank : ∀ c ∈ lineEnd, isBlank c = true := by
      have hall : [[], ['\n'], ['\r'], ['\r', '\n']].all (·.all isBlank) = true := by decide
      exact List.all_eq_true.mp (List.all_eq_true.mp hall lineEnd hlineEnd)
    have htrim : trimChars (inside ++ lineEnd) = trimChars inside :=
      trimWhere_padded (List.forall_mem_nil _) hblank inside
    rw [← List.append_assoc, if_pos (List.isSuffixOf_iff_suffix.mpr (List.suffix_append _ _)),
      List.length_append, Nat.add_sub_cancel, List.take_left, htrim]
    rfl
  | none =>
    have hnone : ¬ mark <:+ rest := by
      rintro ⟨inside, rfl⟩
      have hsome := @Pattern.upTo?_isSome inside mark isEnd (by decide)
      rw [hinside] at hsome
      contradiction
    rw [if_neg (mt List.isSuffixOf_iff_suffix.mp hnone)]
    rfl

/-- A block is closed by its last three ticks. -/
theorem wholeBlock?_block (opening : OpeningLine) (inside : List Char) :
    (wholeBlock? (opening.text.toList ++ (inside ++ mark))).map trimChars =
      some (trimChars inside) := by
  rw [wholeBlock?_trimmed (afterOpening?_text opening _),
    if_pos (List.isSuffixOf_iff_suffix.mpr (List.suffix_append _ _)), List.length_append,
    Nat.add_sub_cancel, List.take_left]

/-- Blanks around a block, and line ends within, do not matter. -/
theorem codeChars_block (opening : OpeningLine) (lineEnd : LineEnd) {before after : List Char}
    (hbefore : ∀ c ∈ before, isBlank c = true) (hafter : ∀ c ∈ after, isBlank c = true)
    (inside : List Char) :
    codeChars
        (before ++ (opening.text.toList ++ (inside ++ lineEnd.text.toList ++ mark)) ++ after) =
      trimChars inside := by
  have hbare : BareEnds isBlank
      (opening.text.toList ++ (inside ++ lineEnd.text.toList ++ mark)) := by
    have hhead : (opening.text.toList ++ (inside ++ lineEnd.text.toList ++ mark)).head? =
        mark.head? := by
      rw [opening.toList_text]
      rfl
    have hlast : (opening.text.toList ++ (inside ++ lineEnd.text.toList ++ mark)).getLast? =
        mark.getLast? := by
      simp [mark, List.getLast?_append]
    have hmark : ∀ c ∈ mark, isBlank c = false := List.all_iff_forall_prop.mp (by decide)
    exact ⟨fun c hc => hmark c (List.mem_of_head? (hhead ▸ hc)),
      fun c hc => hmark c (List.mem_of_getLast? (hlast ▸ hc))⟩
  have htext := trimWhere_padded hbefore hafter
    (opening.text.toList ++ (inside ++ lineEnd.text.toList ++ mark))
  rw [trimWhere_of_bareEnds hbare] at htext
  obtain ⟨block, hblock, htrim⟩ := Option.map_eq_some_iff.mp
    (wholeBlock?_block opening (inside ++ lineEnd.text.toList))
  rw [codeChars, trimChars, htext, hblock]
  exact htrim.trans (trimWhere_padded (List.forall_mem_nil _) lineEnd.isBlank_text inside)

end Blocks

section Prose

variable {prose inside : List Char}

/-- A block does not begin within prose, not even with the last ticks of it. -/
theorem afterOpening?_prose (hne : prose ≠ []) (h : ¬ mark <:+: prose) (rest : List Char) :
    afterOpening? (prose ++ (mark ++ rest)) = none := by
  by_cases hp : mark <+: prose ++ (mark ++ rest)
  · rcases List.prefix_or_prefix_of_prefix hp (List.prefix_append prose _) with hm | hshort
    · exact absurd hm.isInfix h
    · -- Prose of one or two ticks is followed by a tick, which ends no opening line.
      rcases prose with _ | ⟨a, _ | ⟨b, _ | ⟨c, tail⟩⟩⟩
      · contradiction
      · obtain rfl : a = '\x60' := by simpa [mark] using hshort
        rfl
      · obtain ⟨rfl, rfl⟩ : a = '\x60' ∧ b = '\x60' := by simpa [mark] using hshort
        rfl
      · have hwhole : a :: b :: c :: tail = mark :=
          hshort.eq_of_length_le (by simp [mark])
        exact absurd (hwhole ▸ List.infix_refl mark) h
  · exact afterOpening?_of_no_mark hp

theorem firstBlock?_prose (h : ¬ mark <:+: prose) (rest : List Char) :
    firstBlock? (prose ++ (mark ++ rest)) = firstBlock? (mark ++ rest) := by
  induction prose with
  | nil => rfl
  | cons c prose ih =>
    have hrest : ¬ mark <:+: prose := fun hm => h (hm.trans (List.suffix_cons c prose).isInfix)
    have hnone := afterOpening?_prose (List.cons_ne_nil c prose) h rest
    rw [List.cons_append] at hnone ⊢
    rw [firstBlock?, hnone, ih hrest]
    rfl

/-- Three ticks are looked for behind a character that is none. -/
theorem beforeMark?_skip {q : Char} (hq : q ∉ mark) (h : ¬ mark <:+: inside)
    (more : List Char) :
    beforeMark? (inside ++ q :: more) = (beforeMark? more).map (inside ++ q :: ·) := by
  have hnone {text : List Char} (h : ¬ mark <:+: text) :
      ¬ mark.isPrefixOf (text ++ q :: more) = true := fun hm =>
    h (Review.prefix_of_prefix_barred hq (List.isPrefixOf_iff_prefix.mp hm)).isInfix
  induction inside with
  | nil =>
    have hhere := hnone h
    rw [List.nil_append] at hhere ⊢
    rw [beforeMark?, Pattern.upTo?_cons, if_neg hhere]
    rfl
  | cons c inside ih =>
    have hrest : ¬ mark <:+: inside := fun hm => h (hm.trans (List.suffix_cons c inside).isInfix)
    have hhere := hnone h
    rw [List.cons_append] at hhere ⊢
    rw [beforeMark?, Pattern.upTo?_cons, if_neg hhere, ← beforeMark?, ih hrest, Option.map_map]
    rfl

theorem beforeMark?_mark (rest : List Char) : beforeMark? (mark ++ rest) = some [] := rfl

theorem beforeMark?_closing (h : ¬ mark <:+: inside) (lineEnd : LineEnd) (rest : List Char) :
    beforeMark? (inside ++ lineEnd.text.toList ++ (mark ++ rest)) =
      some (inside ++ lineEnd.text.toList) := by
  have hlf : '\n' ∉ mark := by decide
  have hcr : '\r' ∉ mark := by decide
  have hnil : ¬ mark <:+: [] := by decide
  rw [List.append_assoc]
  cases lineEnd with
  | lf => exact (beforeMark?_skip hlf h (mark ++ rest)).trans (by rw [beforeMark?_mark]; rfl)
  | crlf =>
    have hafter := beforeMark?_skip hlf hnil (mark ++ rest)
    rw [beforeMark?_mark] at hafter
    exact (beforeMark?_skip hcr h _).trans (congrArg _ hafter)

theorem firstBlock?_of_opens {text rest : List Char} (hopens : afterOpening? text = some rest)
    (h : beforeMark? rest = some inside) : firstBlock? text = some inside := by
  cases text with
  | nil => cases hopens
  | cons c text =>
    rw [firstBlock?, hopens, Option.bind_some, h]
    rfl

/-- The first block behind prose is taken up to the next three ticks. -/
theorem codeChars_prose (hprose : ¬ mark <:+: prose) (hkept : ∃ c ∈ prose, isBlank c = false)
    (hinside : ¬ mark <:+: inside) (opening : OpeningLine) (lineEnd : LineEnd)
    (rest : List Char) :
    codeChars (prose ++ (opening.text.toList ++ (inside ++ lineEnd.text.toList ++ mark)) ++ rest) =
      trimChars inside := by
  have htick : isBlank '\x60' = false := by decide
  -- The prose keeps a character, and the closing ticks keep what stands before them.
  have htext : trimChars
      (prose ++ (opening.text.toList ++ (inside ++ lineEnd.text.toList ++ mark)) ++ rest) =
      prose.dropWhile isBlank ++ (opening.text.toList ++
        (inside ++ lineEnd.text.toList ++ (mark ++ trimEndWhere isBlank rest))) := by
    have hkeep := trimWhere_keep hkept htick
      (opening.text.toList ++ inside ++ lineEnd.text.toList ++ ['\x60', '\x60']) rest
    simpa [trimChars, mark] using hkeep
  have hne : prose.dropWhile isBlank ≠ [] := dropWhile_ne_nil hkept
  have hnone : ¬ mark <:+: prose.dropWhile isBlank := fun hm =>
    hprose (hm.trans (List.dropWhile_suffix isBlank).isInfix)
  have hblock : firstBlock? (opening.text.toList ++
      (inside ++ lineEnd.text.toList ++ (mark ++ trimEndWhere isBlank rest))) =
        some (inside ++ lineEnd.text.toList) :=
    firstBlock?_of_opens (afterOpening?_text opening _) (beforeMark?_closing hinside lineEnd _)
  rw [codeChars, htext]
  rw [opening.toList_text] at hblock ⊢
  rw [wholeBlock?, afterOpening?_prose hne hnone, firstBlock?_prose hnone, hblock]
  exact trimWhere_padded (List.forall_mem_nil _) lineEnd.isBlank_text inside

end Prose

section Replies

theorem toList_block (opening : OpeningLine) (lineEnd : LineEnd) (before code after : String) :
    (before ++ opening.block code lineEnd ++ after).toList =
      before.toList ++ (opening.text.toList ++ (code.toList ++ lineEnd.text.toList ++ mark)) ++
        after.toList := by
  simp [OpeningLine.block, mark]

/-- Code that is written in a block, with any blanks around the block, is read back, whether or
not it holds three ticks. -/
theorem code_of_block (opening : OpeningLine) (lineEnd : LineEnd) (before code after : String)
    (hbefore : ∀ c ∈ before.toList, isBlank c = true)
    (hafter : ∀ c ∈ after.toList, isBlank c = true) (hcode : Text.trim code = code) :
    Fence.code (before ++ opening.block code lineEnd ++ after) = code := by
  rw [Fence.code, toList_block, codeChars_block opening lineEnd hbefore hafter]
  exact hcode

def sampleOpening : OpeningLine where
  tag := "tsx"
  pad := " \t"
  lineEnd := .crlf
  tag_ok := List.all_iff_forall_prop.mp (by decide)
  pad_ok := List.all_iff_forall_prop.mp (by decide)

/-- Code with a block of its own, in a block. -/
theorem nested_block_is_code :
    Text.trim "```a\nx\n```" = "```a\nx\n```" ∧
      Fence.code ("\n " ++ sampleOpening.block "```a\nx\n```" .lf ++ "\r\n") =
        "```a\nx\n```" :=
  have hcode : Text.trim "```a\nx\n```" = "```a\nx\n```" := by decide
  ⟨hcode, code_of_block sampleOpening .lf _ _ _ (List.all_eq_true.mp (by decide))
    (List.all_eq_true.mp (by decide)) hcode⟩

/-- Behind prose, the first block gives the code, whatever stands after it. Of any reply the code
is a contiguous part with no blank at its ends, and all of the reply if it has no three ticks. -/
theorem code_of_prose :
    (∀ (opening : OpeningLine) (lineEnd : LineEnd) (prose code rest : String),
      ¬ mark <:+: prose.toList → (∃ c ∈ prose.toList, isBlank c = false) →
      ¬ mark <:+: code.toList →
      Fence.code (prose ++ opening.block code lineEnd ++ rest) = Text.trim code) ∧
    ∀ reply : String,
      (Fence.code reply).toList <:+: reply.toList ∧
      BareEnds isBlank (Fence.code reply).toList ∧
      (¬ mark <:+: reply.toList → Fence.code reply = Text.trim reply) := by
  constructor
  · intro opening lineEnd prose code rest hprose hkept hcode
    rw [Fence.code, toList_block, codeChars_prose hprose hkept hcode]
    rfl
  · intro reply
    rw [Fence.code, String.toList_ofList]
    refine ⟨codeChars_isInfix _, codeChars_bareEnds _, fun h => ?_⟩
    rw [codeChars_of_no_mark h]
    rfl

/-- Two ticks before the first block, and another block after it. -/
theorem first_block_is_code :
    ¬ mark <:+: "See: ``".toList ∧ (∃ c ∈ "See: ``".toList, isBlank c = false) ∧
      ¬ mark <:+: " f (`x`)``".toList ∧
      Fence.code ("See: ``" ++ sampleOpening.block " f (`x`)``" .crlf ++ "\n```\ng\n```") =
        "f (`x`)``" := by
  have hprose : ¬ mark <:+: "See: ``".toList := by decide
  have hkept : ∃ c ∈ "See: ``".toList, isBlank c = false := ⟨'S', by decide, by decide⟩
  have hcode : ¬ mark <:+: " f (`x`)``".toList := by decide
  have htrim : Text.trim " f (`x`)``" = "f (`x`)``" := by decide
  refine ⟨hprose, hkept, hcode, ?_⟩
  rw [code_of_prose.1 sampleOpening .crlf _ _ _ hprose hkept hcode, htrim]

end Replies

end Storyboard.Fence
