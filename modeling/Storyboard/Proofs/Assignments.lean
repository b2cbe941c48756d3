import Storyboard.Proofs.Fences
import Storyboard.Proofs.Merging

/-!
# Files of quoted assignments

Any value without a line break can be written into a file: between quotes it is read back, whatever
quotes, blanks and signs it holds itself. Other lines of the file have no part in it, and of the
assignments to one name the last one counts. The file is a list of rows, and the induction over it
goes row by row: what one row gives does not depend on the rows around it.
-/

namespace Storyboard.Environment

open Text
open Fence (LineEnd)

/-- The pairs of quotes that may surround a value. -/
inductive Quote where
  | double
  | single

def Quote.char : Quote → Char
  | .double => '"'
  | .single => '\''

/-- A row that assigns a value to a name, with blanks before it, and with the word that exports it
and blanks behind this word, or without it. -/
structure Assigning where
  lead : List Char
  exported : Option (List Char)
  name : String
  quote : Quote
  value : String
  lead_ok : ∀ c ∈ lead, isBlank c = true ∧ isLineBreak c = false
  exported_ok : ∀ pad ∈ exported, ∀ c ∈ pad, isBlank c = true ∧ isLineBreak c = false
  name_filled : name ≠ ""
  name_trimmed : trim name = name
  name_ok : ∀ c ∈ name.toList, c ≠ '=' ∧ isLineBreak c = false
  name_no_comment : name.toList.head? ≠ some '#'
  name_no_export : ¬ "export ".toList <+: name.toList
  value_ok : ∀ c ∈ value.toList, isLineBreak c = false

/-- The name of a row, an equals sign, and the value between quotes. -/
def Assigning.core (row : Assigning) : List Char :=
  row.name.toList ++ '=' :: row.quote.char :: (row.value.toList ++ [row.quote.char])

/-- The row from the word that exports it on. -/
def Assigning.stem (row : Assigning) : List Char :=
  match row.exported with
  | none => row.core
  | some pad => "export ".toList ++ (pad ++ row.core)

/-- Rows that assign nothing: blank, with a comment, or without an equals sign. -/
inductive Idle : List Char → Prop
  | blank {text : List Char} (h : ∀ c ∈ text, isBlank c = true) : Idle text
  | comment {lead : List Char} (h : ∀ c ∈ lead, isBlank c = true) (rest : List Char) :
      Idle (lead ++ '#' :: rest)
  | unassigned {text : List Char} (h : '=' ∉ text) : Idle text

/-- A row of a file, without its end. -/
inductive Row where
  | assigning (row : Assigning)
  | idle (text : List Char) (h : Idle text) (unbroken : ∀ c ∈ text, isLineBreak c = false)

def Row.text : Row → List Char
  | .assigning row => row.lead ++ row.stem
  | .idle text _ _ => text

def Row.pair? : Row → Option (String × String)
  | .assigning row => some (row.name, row.value)
  | .idle _ _ _ => none

/-- A file of rows with their ends; the last row may have none. -/
def fileOf (rows : List (Row × LineEnd)) (last : Option Row) : List Char :=
  rows.flatMap (fun row => row.1.text ++ row.2.text.toList) ++ (last.map Row.text).getD []

/-- What the rows of a file assign, first to last. -/
def pairsOf (rows : List (Row × LineEnd)) (last : Option Row) : List (String × String) :=
  (rows.map Prod.fst ++ last.toList).filterMap Row.pair?

section Rows

variable {text : List Char}

theorem Quote.isQuote_char (quote : Quote) : quote.char = '"' ∨ quote.char = '\'' := by
  cases quote with
  | double => exact .inl rfl
  | single => exact .inr rfl

theorem Quote.isBlank_char (quote : Quote) : isBlank quote.char = false := by
  cases quote <;> decide

theorem Quote.isLineBreak_char (quote : Quote) : isLineBreak quote.char = false := by
  cases quote <;> decide

theorem Assigning.name_ne_nil (row : Assigning) : row.name.toList ≠ [] := by
  simpa using row.name_filled

theorem Assigning.trimChars_name (row : Assigning) :
    trimChars row.name.toList = row.name.toList := by
  have h := congrArg String.toList row.name_trimmed
  rwa [trim, String.toList_ofList] at h

theorem Assigning.name_bareEnds (row : Assigning) : BareEnds isBlank row.name.toList := by
  rw [← row.trimChars_name]
  exact trimWhere_bareEnds isBlank _

theorem Assigning.head?_core (row : Assigning) :
    ∃ c, row.core.head? = some c ∧ isBlank c = false ∧ c ≠ '#' := by
  cases hname : row.name.toList with
  | nil => exact absurd hname row.name_ne_nil
  | cons c rest =>
    have hhead : row.name.toList.head? = some c := by rw [hname]; rfl
    refine ⟨c, ?_, row.name_bareEnds.head c hhead, ?_⟩
    · rw [core, hname]
      rfl
    · rintro rfl
      exact row.name_no_comment hhead

theorem Assigning.head?_stem (row : Assigning) :
    ∃ c, row.stem.head? = some c ∧ isBlank c = false ∧ c ≠ '#' := by
  unfold stem
  cases row.exported with
  | none => exact row.head?_core
  | some pad => exact ⟨'e', rfl, by decide, by decide⟩

theorem Assigning.getLast?_stem (row : Assigning) : row.stem.getLast? = some row.quote.char := by
  have hcore : row.core = row.name.toList ++ '=' :: row.quote.char :: row.value.toList ++
      [row.quote.char] := by simp [core]
  unfold stem
  cases row.exported with
  | none => rw [hcore, List.getLast?_concat]
  | some pad =>
    dsimp only
    rw [hcore, ← List.append_assoc, ← List.append_assoc, List.getLast?_concat]

/-- A row without its blanks is its stem, which starts with the word that exports it or with its
name and ends with a quote. -/
theorem Assigning.trimChars_text (row : Assigning) :
    trimChars (row.lead ++ row.stem) = row.stem := by
  obtain ⟨c, hc, hkept, _⟩ := row.head?_stem
  have hends : BareEnds isBlank row.stem := by
    refine ⟨fun d hd => ?_, fun d hd => ?_⟩
    · obtain rfl := Option.some.inj (hc.symm.trans hd)
      exact hkept
    · obtain rfl := Option.some.inj (row.getLast?_stem.symm.trans hd)
      exact row.quote.isBlank_char
  have hlead : ∀ d ∈ row.lead, isBlank d = true := fun d hd => (row.lead_ok d hd).1
  have hpadded := trimWhere_padded hlead (List.forall_mem_nil _) row.stem
  rw [List.append_nil] at hpadded
  rw [trimChars, hpadded, trimWhere_of_bareEnds hends]

/-- Behind the word that exports it, if there is one, a row goes on with its name. -/
theorem Assigning.core_of_stem (row : Assigning) :
    (if exportWord.isPrefixOf row.stem then row.stem.drop exportWord.length
      else row.stem).dropWhile isBlank = row.core := by
  have hcore : row.core.dropWhile isBlank = row.core := by
    obtain ⟨c, hc, hkept, _⟩ := row.head?_core
    obtain ⟨rest, hrest⟩ := List.head?_eq_some_iff.mp hc
    rw [hrest, List.dropWhile_cons_of_neg (by simp [hkept])]
  unfold stem
  cases hexported : row.exported with
  | none =>
    have hnot : ¬ exportWord.isPrefixOf row.core = true := by
      rw [List.isPrefixOf_iff_prefix]
      intro h
      exact row.name_no_export (Review.prefix_of_prefix_barred (by decide) h)
    simp only [if_neg hnot, hcore]
  | some pad =>
    have hpad : ∀ c ∈ pad, isBlank c = true :=
      fun c hc => (row.exported_ok pad hexported c hc).1
    have hword : exportWord.isPrefixOf ("export ".toList ++ (pad ++ row.core)) = true := by
      rw [List.isPrefixOf_iff_prefix]
      exact List.prefix_append _ _
    have hdrop : ("export ".toList ++ (pad ++ row.core)).drop exportWord.length =
        pad ++ row.core := List.drop_left
    simp only [if_pos hword, hdrop, List.dropWhile_append_of_pos hpad, hcore]

theorem splitFirst_barred {mark : Char} {before : List Char} (h : mark ∉ before)
    (after : List Char) : splitFirst mark (before ++ mark :: after) = some (before, after) := by
  induction before with
  | nil => simp [splitFirst]
  | cons c before ih =>
    have hc : c ≠ mark := fun he => h (he ▸ List.mem_cons_self)
    have hrest := ih fun hm => h (List.mem_cons_of_mem _ hm)
    rw [List.cons_append, splitFirst, if_neg hc, hrest]
    rfl

/-- The value of a row is read as it was written. -/
theorem Assigning.assignment?_text (row : Assigning) :
    assignment? (row.lead ++ row.stem) = some (row.name, row.value) := by
  obtain ⟨c, hc, _, hcomment⟩ := row.head?_stem
  have hgoes : ¬ (row.stem.isEmpty || row.stem.head? = some '#') = true := by
    rw [hc]
    obtain ⟨rest, hrest⟩ := List.head?_eq_some_iff.mp hc
    simp [hrest, hcomment]
  have hsign : '=' ∉ row.name.toList := fun hm => (row.name_ok '=' hm).1 rfl
  have hquoted : BareEnds isBlank (row.quote.char :: (row.value.toList ++ [row.quote.char])) := by
    refine ⟨fun d hd => ?_, fun d hd => ?_⟩
    · obtain rfl := Option.some.inj hd
      exact row.quote.isBlank_char
    · rw [← List.cons_append, List.getLast?_concat] at hd
      obtain rfl := Option.some.inj hd
      exact row.quote.isBlank_char
  have hfilled : ¬ row.name.toList.isEmpty = true := by simpa using row.name_filled
  unfold assignment?
  dsimp only
  rw [row.trimChars_text, if_neg hgoes, row.core_of_stem, core, splitFirst_barred hsign,
    Option.bind_some, row.trimChars_name, if_neg hfilled, trimChars, trimWhere_of_bareEnds hquoted,
    unquote_quoted row.quote.isQuote_char, String.ofList_toList, String.ofList_toList]

theorem splitFirst_eq_none {mark : Char} (h : mark ∉ text) : splitFirst mark text = none := by
  cases hsplit : splitFirst mark text with
  | none => rfl
  | some parts =>
    rw [splitFirst_eq_append hsplit] at h
    simp at h

theorem Idle.assignment?_eq_none (h : Idle text) : assignment? text = none := by
  unfold assignment?
  dsimp only
  cases h with
  | blank h =>
    have hnil : trimChars text = [] := by
      rw [trimChars, trimWhere, List.dropWhile_eq_nil_iff.mpr h]
      rfl
    rw [hnil]
    rfl
  | @comment lead h rest =>
    have hcomment : trimChars (lead ++ '#' :: rest) = '#' :: trimEndWhere isBlank rest := by
      rw [trimChars, trimWhere, List.dropWhile_append_of_pos h]
      exact trimEndWhere_keep (by decide) [] rest
    rw [hcomment]
    rfl
  | unassigned h =>
    have hsubset := List.Subset.trans (behindExport_subset (trimChars text))
      (trimWhere_isInfix isBlank text).subset
    rw [splitFirst_eq_none fun hm => h (hsubset hm)]
    split <;> rfl

end Rows

section Files

theorem unifyLineEnds_unbroken {text : List Char} (h : ∀ c ∈ text, isLineBreak c = false)
    (rest : List Char) : unifyLineEnds (text ++ rest) = text ++ unifyLineEnds rest := by
  induction text with
  | nil => rfl
  | cons c text ih =>
    obtain ⟨hc, htext⟩ := List.forall_mem_cons.mp h
    have hreturn : c ≠ '\r' := by
      rintro rfl
      exact absurd hc (by decide)
    rw [List.cons_append, unifyLineEnds.eq_3 _ _ (by simp [hreturn]) (by simp [hreturn]), ih htext]
    rfl

theorem unifyLineEnds_lineEnd (lineEnd : LineEnd) (rest : List Char) :
    unifyLineEnds (lineEnd.text.toList ++ rest) = '\n' :: unifyLineEnds rest := by
  cases lineEnd with
  | lf => simp [LineEnd.text, unifyLineEnds]
  | crlf => rfl

theorem Row.unbroken (row : Row) : ∀ c ∈ row.text, isLineBreak c = false := by
  cases row with
  | idle _ _ hunbroken => exact hunbroken
  | assigning row =>
    have hletters : ("export ".toList.all fun c => !isLineBreak c) = true := rfl
    have hword : ∀ c ∈ "export ".toList, isLineBreak c = false := by simpa using hletters
    have hcore : ∀ c ∈ row.core, isLineBreak c = false := by
      intro c hc
      simp only [Assigning.core, List.mem_append, List.mem_cons, List.not_mem_nil, or_false] at hc
      rcases hc with hc | rfl | rfl | hc | rfl
      · exact (row.name_ok c hc).2
      · decide
      · exact row.quote.isLineBreak_char
      · exact row.value_ok c hc
      · exact row.quote.isLineBreak_char
    intro c hc
    rcases List.mem_append.mp hc with hc | hc
    · exact (row.lead_ok c hc).2
    · unfold Assigning.stem at hc
      cases hexported : row.exported with
      | none =>
        rw [hexported] at hc
        exact hcore c hc
      | some pad =>
        rw [hexported] at hc
        rcases List.mem_append.mp hc with hc | hc
        · exact hword c hc
        · rcases List.mem_append.mp hc with hc | hc
          · exact (row.exported_ok pad hexported c hc).2
          · exact hcore c hc

theorem Row.assignment?_text (row : Row) : assignment? row.text = row.pair? := by
  cases row with
  | assigning row => exact row.assignment?_text
  | idle _ h _ => exact h.assignment?_eq_none

theorem splitLines_unbroken {text : List Char} (h : ∀ c ∈ text, isLineBreak c = false)
    (hfilled : text ≠ []) : splitLines text = [text] := by
  induction text with
  | nil => exact absurd rfl hfilled
  | cons c text ih =>
    obtain ⟨hc, htext⟩ := List.forall_mem_cons.mp h
    rw [splitLines, if_neg (by simp [hc])]
    cases text with
    | nil => rfl
    | cons d text => rw [ih htext (List.cons_ne_nil _ _)]

theorem filterMap_singleton {α β : Type} {f : α → Option β} (a : α) :
    [a].filterMap f = (f a).toList := by
  cases h : f a <;> simp [h]

/-- The rows of a file are its lines, but for a last one without any character. -/
theorem filterMap_splitLines (rows : List (Row × LineEnd)) (last : Option Row) :
    (splitLines (unifyLineEnds (fileOf rows last))).filterMap assignment? = pairsOf rows last := by
  induction rows with
  | nil =>
    cases last with
    | none => rfl
    | some row =>
      have hline : unifyLineEnds (fileOf [] (some row)) = row.text := by
        have h := unifyLineEnds_unbroken row.unbroken []
        rwa [unifyLineEnds, List.append_nil] at h
      have hpairs : pairsOf [] (some row) = row.pair?.toList := filterMap_singleton row
      rw [hline, hpairs, ← row.assignment?_text]
      by_cases hfilled : row.text = []
      · rw [hfilled]
        rfl
      · rw [splitLines_unbroken row.unbroken hfilled]
        exact filterMap_singleton _
  | cons row rows ih =>
    have hfile : fileOf (row :: rows) last =
        row.1.text ++ (row.2.text.toList ++ fileOf rows last) := by simp [fileOf]
    have hpairs : pairsOf (row :: rows) last = row.1.pair?.toList ++ pairsOf rows last := by
      rw [pairsOf, List.map_cons, List.cons_append, ← List.singleton_append, List.filterMap_append]
      exact congrArg (· ++ _) (filterMap_singleton _)
    rw [hfile, unifyLineEnds_unbroken row.1.unbroken, unifyLineEnds_lineEnd,
      splitLines_append_break (by decide) _ _ row.1.unbroken, List.filterMap_cons,
      row.1.assignment?_text, ih, hpairs]
    cases row.1.pair? <;> rfl

theorem readAssignments_fileOf (rows : List (Row × LineEnd)) (last : Option Row) :
    readAssignments (String.ofList (fileOf rows last)) = Keyed.ofPairs (pairsOf rows last) := by
  rw [readAssignments, lines, String.toList_ofList, ← filterMap_splitLines, List.filterMap_map]
  simp only [Function.comp_def, String.toList_ofList]

end Files

/-- A file gives each name the value that its last assignment was written for, and no other name
has a value. -/
theorem quoted_assignments_are_read (rows : List (Row × LineEnd)) (last : Option Row) :
    let found := readAssignments (String.ofList (fileOf rows last))
    (found.map Prod.fst).Nodup ∧
      ∀ name value, found.lookup name = some value ↔
        ∃ before after, pairsOf rows last = before ++ (name, value) :: after ∧
          ∀ pair ∈ after, pair.1 ≠ name := by
  intro found
  have hfound : found = Keyed.ofPairs (pairsOf rows last) := readAssignments_fileOf rows last
  rw [hfound]
  exact ⟨Keyed.nodup_ofPairs _, fun name value => Keyed.lookup_ofPairs_eq_some_iff⟩

/-- An exported name, and a value of quotes, blanks and signs that is told from a comment. -/
def hostileRow : Assigning where
  lead := [' ', '\t']
  exported := some [' ']
  name := "A"
  quote := .double
  value := " \"'='# "
  lead_ok := List.all_iff_forall_prop.mp (by decide)
  exported_ok pad hpad := by
    obtain rfl := Option.some.inj hpad
    exact List.all_iff_forall_prop.mp (by decide)
  name_filled := by decide
  name_trimmed := by decide
  name_ok := List.all_iff_forall_prop.mp (by decide)
  name_no_comment := by decide
  name_no_export := by decide
  value_ok := List.all_iff_forall_prop.mp (by decide)

/-- The same name again, in a plain row. -/
def plainRow : Assigning :=
  { hostileRow with
    lead := []
    exported := none
    value := "x"
    lead_ok := List.forall_mem_nil _
    exported_ok := fun _ hpad => nomatch hpad
    value_ok := List.all_iff_forall_prop.mp (by decide) }

/-- A comment that looks like an assignment. -/
def commentRow : Row :=
  .idle ['#', 'A', '=', 'z'] (@Idle.comment [] (List.forall_mem_nil _) ['A', '=', 'z'])
    (List.all_iff_forall_prop.mp (by decide))

/-- Of a plain row, a comment and the hostile row, which ends the file, the last one counts. -/
theorem hostileRow_is_read :
    (readAssignments (String.ofList (fileOf
      [(.assigning plainRow, .crlf), (commentRow, .lf)]
      (some (.assigning hostileRow))))).lookup "A" = some " \"'='# " := by
  obtain ⟨_, hread⟩ := quoted_assignments_are_read
    [(.assigning plainRow, .crlf), (commentRow, .lf)] (some (.assigning hostileRow))
  exact (hread "A" " \"'='# ").mpr ⟨[("A", "x")], [], rfl, List.forall_mem_nil _⟩

end Storyboard.Environment
