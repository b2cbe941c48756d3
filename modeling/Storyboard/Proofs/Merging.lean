import Storyboard.Proofs.Filling
import Storyboard.Proofs.Trimming

/-!
# An environment and a file in one

Whether a text counts is read off its shape: what stands between blanks and a pair of quotes, and
whether that refers to the variable itself. A file says of a variable what the last of its lines
says that assigns to it. No line of a file without a NUL character has one, so filling in comes to
its end, and what it leaves is left as it is by the next time.
-/

namespace Storyboard

open Text

section Shapes

variable {name current : String} {text inner : List Char}

/-- The text between a pair of matching quotes, the whole text if no such pair surrounds it. -/
inductive Unquoted : List Char → List Char → Prop
  | quoted {quote : Char} {inner : List Char} (h : quote = '"' ∨ quote = '\'') :
      Unquoted (quote :: (inner ++ [quote])) inner
  | plain {text : List Char}
      (h : ∀ quote inner, quote = '"' ∨ quote = '\'' → text ≠ quote :: (inner ++ [quote])) :
      Unquoted text text

/-- References to a variable, in braces or not, the latter with a text to fall back on. -/
inductive RefersTo (name : List Char) : List Char → Prop
  | plain : RefersTo name ('$' :: name)
  | braced : RefersTo name ('$' :: '\x7b' :: (name ++ ['\x7d']))
  | fallback (text : List Char) :
      RefersTo name ('$' :: '\x7b' :: (name ++ (':' :: '-' :: (text ++ ['\x7d']))))

/-- The variable has a text of its own. -/
def IsReal (name current : String) : Prop :=
  ∃ inner, Unquoted (trimChars current.toList) inner ∧ trimChars inner ≠ [] ∧
    ¬ RefersTo name.toList (trimChars inner)

theorem isQuote_iff {c : Char} : isQuote c = true ↔ c = '"' ∨ c = '\'' := by
  simp [isQuote]

theorem unquote_quoted {quote : Char} (h : quote = '"' ∨ quote = '\'') (inner : List Char) :
    unquote (quote :: (inner ++ [quote])) = inner := by
  cases hrest : inner ++ [quote] with
  | nil => simp at hrest
  | cons second rest =>
    have hlast : (second :: rest).getLast? = some quote := by
      rw [← hrest, List.getLast?_concat]
    rw [unquote, hlast, if_pos (by simp [isQuote_iff.mpr h]), ← hrest, List.dropLast_concat]

theorem unquote_plain
    (h : ∀ quote inner, quote = '"' ∨ quote = '\'' → text ≠ quote :: (inner ++ [quote])) :
    unquote text = text := by
  unfold unquote
  split
  · next first second rest =>
    split
    · next hquoted =>
      rw [Bool.and_eq_true, decide_eq_true_eq] at hquoted
      obtain ⟨init, hinit⟩ := List.getLast?_eq_some_iff.mp hquoted.2
      exact absurd (by rw [hinit]) (h first init (isQuote_iff.mp hquoted.1))
    · rfl
  · rfl

theorem unquoted_iff : Unquoted text inner ↔ unquote text = inner := by
  constructor
  · intro h
    cases h with
    | quoted hquote => exact unquote_quoted hquote inner
    | plain hplain => exact unquote_plain hplain
  · rintro rfl
    by_cases h : ∃ quote inner, (quote = '"' ∨ quote = '\'') ∧ text = quote :: (inner ++ [quote])
    · obtain ⟨quote, inner, hquote, rfl⟩ := h
      rw [unquote_quoted hquote]
      exact .quoted hquote
    · have hplain : ∀ quote inner, quote = '"' ∨ quote = '\'' →
          text ≠ quote :: (inner ++ [quote]) :=
        fun quote inner hquote he => h ⟨quote, inner, hquote, he⟩
      rw [unquote_plain hplain]
      exact .plain hplain

theorem refersTo_iff {name : List Char} : RefersTo name text ↔
    text = '$' :: name ∨ text = '$' :: '\x7b' :: (name ++ ['\x7d']) ∨
      ('$' :: '\x7b' :: (name ++ ":-".toList)) <+: text ∧ ['\x7d'] <:+ text := by
  constructor
  · intro h
    cases h with
    | plain => exact .inl rfl
    | braced => exact .inr (.inl rfl)
    | fallback text =>
      refine .inr (.inr ⟨⟨text ++ ['\x7d'], by simp⟩, ?_⟩)
      exact ⟨'$' :: '\x7b' :: (name ++ (':' :: '-' :: text)), by simp⟩
  · rintro (rfl | rfl | ⟨⟨rest, rfl⟩, init, hend⟩)
    · exact .plain
    · exact .braced
    · -- The reference ends in another character, so the brace at the end is behind it.
      have hlast := congrArg List.getLast? hend
      rw [List.getLast?_concat] at hlast
      rcases List.eq_nil_or_concat rest with rfl | ⟨fallback, last, rfl⟩
      · have hdash : '$' :: '\x7b' :: (name ++ ":-".toList) =
            ('$' :: '\x7b' :: (name ++ [':'])) ++ ['-'] := by simp
        rw [List.append_nil, hdash, List.getLast?_concat] at hlast
        exact absurd (Option.some.inj hlast) (by decide)
      · rw [List.concat_eq_append, ← List.append_assoc, List.getLast?_concat] at hlast
        obtain rfl := Option.some.inj hlast
        simpa using @RefersTo.fallback name fallback

theorem isPlaceholder_eq_false_iff : isPlaceholder name current = false ↔ IsReal name current := by
  have hshape : isPlaceholder name current = true ↔
      trimChars (unquote (trimChars current.toList)) = [] ∨
        RefersTo name.toList (trimChars (unquote (trimChars current.toList))) := by
    unfold isPlaceholder
    simp only [refersTo_iff, Bool.or_eq_true, Bool.and_eq_true, List.isEmpty_iff, beq_iff_eq,
      List.isPrefixOf_iff_prefix, List.isSuffixOf_iff_suffix, or_assoc]
    rfl
  rw [Bool.eq_false_iff, ne_eq, hshape, not_or]
  constructor
  · intro h
    exact ⟨_, unquoted_iff.mpr rfl, h⟩
  · rintro ⟨inner, hinner, h⟩
    obtain rfl := unquoted_iff.mp hinner
    exact h

theorem unquote_subset (text : List Char) : unquote text ⊆ text := by
  have h : Unquoted text (unquote text) := unquoted_iff.mpr rfl
  generalize unquote text = inner at h
  cases h with
  | quoted =>
    intro c hc
    simp [hc]
  | plain => exact List.Subset.refl _

end Shapes

section Lines

variable {text line before after : List Char} {name value : String} {mark c : Char}

theorem splitFirst_eq_append (h : splitFirst mark text = some (before, after)) :
    text = before ++ mark :: after := by
  induction text generalizing before with
  | nil => cases h
  | cons c rest ih =>
    rw [splitFirst] at h
    split at h
    · next hc =>
      obtain ⟨rfl, rfl⟩ := Prod.mk.inj (Option.some.inj h)
      rw [hc, List.nil_append]
    · obtain ⟨⟨head, tail⟩, hsplit, hparts⟩ := Option.map_eq_some_iff.mp h
      obtain ⟨rfl, rfl⟩ := Prod.mk.inj hparts
      rw [ih hsplit, List.cons_append]

theorem mem_of_mem_unifyLineEnds (hc : c ≠ '\n') (h : c ∈ unifyLineEnds text) : c ∈ text := by
  fun_induction unifyLineEnds text <;> grind

theorem splitLines_subset (h : line ∈ splitLines text) : line ⊆ text := by
  induction text generalizing line with
  | nil => cases h
  | cons c rest ih =>
    rw [splitLines] at h
    split at h
    · rcases List.mem_cons.mp h with rfl | h
      · exact List.nil_subset _
      · exact List.subset_cons_of_subset _ (ih h)
    · split at h
      · obtain rfl := List.mem_singleton.mp h
        exact List.cons_subset_cons c (List.nil_subset _)
      · next first more hlines =>
        rcases List.mem_cons.mp h with rfl | h
        · exact List.cons_subset_cons c (ih (hlines ▸ List.mem_cons_self))
        · exact List.subset_cons_of_subset _ (ih (hlines ▸ List.mem_cons_of_mem _ h))

theorem behindExport_subset (line : List Char) :
    (if exportWord.isPrefixOf line then line.drop exportWord.length else line).dropWhile isBlank ⊆
      line := by
  refine List.Subset.trans (List.dropWhile_sublist _).subset ?_
  split
  · exact (List.drop_sublist _ _).subset
  · exact List.Subset.refl _

/-- An assignment is made of characters of its line. -/
theorem assignment?_subset (h : assignment? line = some (name, value)) :
    name.toList ⊆ line ∧ value.toList ⊆ line := by
  have htrim (text : List Char) : trimChars text ⊆ text := (trimWhere_isInfix _ text).subset
  unfold assignment? at h
  dsimp only at h
  split at h
  · cases h
  · obtain ⟨⟨key, found⟩, hsplit, h⟩ := Option.bind_eq_some_iff.mp h
    split at h
    · cases h
    · obtain ⟨rfl, rfl⟩ := Prod.mk.inj (Option.some.inj h)
      have hparts := splitFirst_eq_append hsplit
      have hline : key ++ '=' :: found ⊆ line := by
        rw [← hparts]
        exact List.Subset.trans (behindExport_subset _) (htrim line)
      rw [String.toList_ofList, String.toList_ofList]
      constructor
      · exact List.Subset.trans (htrim key) fun c hc => hline (by simp [hc])
      · refine List.Subset.trans (unquote_subset _) ?_
        exact List.Subset.trans (htrim found) fun c hc => hline (by simp [hc])

theorem hasNul_eq_false_iff {text : String} : hasNul text = false ↔ '\x00' ∉ text.toList := by
  simp [hasNul]

end Lines

namespace Keyed

variable {pairs entries : List (String × α)} {key : String} {value : α}

theorem lookup_ofPairs (pairs : List (String × α)) (key : String) :
    (ofPairs pairs).lookup key = pairs.reverse.lookup key := by
  have hfold (pairs : List (String × α)) :
      (pairs.foldr (fun pair entries => put pair.1 pair.2 entries) []).lookup key =
        pairs.lookup key := by
    induction pairs with
    | nil => rfl
    | cons pair pairs ih =>
      rw [List.foldr_cons, lookup_put, ih]
      by_cases hkey : key = pair.1
      · rw [if_pos hkey, List.lookup_cons, hkey, beq_self_eq_true]
      · rw [if_neg hkey, List.lookup_cons, beq_false_of_ne hkey]
  rw [ofPairs, List.foldl_eq_foldr_reverse, hfold]

/-- The last value that is put under a key stays. -/
theorem lookup_ofPairs_eq_some_iff : (ofPairs pairs).lookup key = some value ↔
    ∃ before after, pairs = before ++ (key, value) :: after ∧ ∀ pair ∈ after, pair.1 ≠ key := by
  rw [lookup_ofPairs, List.lookup_eq_some_iff]
  constructor
  · rintro ⟨after, before, hpairs, hafter⟩
    refine ⟨before.reverse, after.reverse, ?_, ?_⟩
    · rw [← List.reverse_reverse pairs, hpairs]
      simp
    · intro pair hpair
      exact (bne_iff_ne.mp (hafter pair (List.mem_reverse.mp hpair))).symm
  · rintro ⟨before, after, rfl, hafter⟩
    refine ⟨after.reverse, before.reverse, by simp, ?_⟩
    intro pair hpair
    exact bne_iff_ne.mpr (hafter pair (List.mem_reverse.mp hpair)).symm

theorem put_eq_self (h : entries.lookup key = some value) : put key value entries = entries := by
  induction entries with
  | nil => cases h
  | cons entry rest ih =>
    obtain ⟨other, held⟩ := entry
    rw [List.lookup_cons] at h
    rw [put]
    by_cases hkey : other = key
    · subst hkey
      rw [beq_self_eq_true] at h
      obtain rfl := Option.some.inj h
      rw [if_pos rfl]
    · rw [beq_false_of_ne (Ne.symm hkey)] at h
      rw [if_neg hkey, ih h]

theorem mem_iff_lookup (hkeys : (entries.map Prod.fst).Nodup) :
    (key, value) ∈ entries ↔ entries.lookup key = some value := by
  rw [List.lookup_eq_some_iff]
  constructor
  · intro h
    obtain ⟨before, after, rfl⟩ := List.append_of_mem h
    refine ⟨before, after, rfl, ?_⟩
    intro entry hentry
    rw [List.map_append, List.nodup_append] at hkeys
    have hne := hkeys.2.2 entry.1 (List.mem_map_of_mem hentry) key (by simp)
    exact bne_iff_ne.mpr hne.symm
  · rintro ⟨before, after, rfl, _⟩
    exact List.mem_append_right _ List.mem_cons_self

end Keyed

namespace Environment

variable {environment assignments : Environment} {file : Option String} {name value : String}

/-- The last line of the file that assigns to the variable gives it this value. -/
def LastAssigned (file : Option String) (name value : String) : Prop :=
  ∃ content before line after, file = some content ∧ lines content = before ++ line :: after ∧
    assignment? line.toList = some (name, value) ∧
    ∀ later ∈ after, ∀ other, assignment? later.toList ≠ some (name, other)

def HasReal (environment : Environment) (name : String) : Prop :=
  ∃ current, environment.lookup name = some current ∧ IsReal name current

theorem lacks_eq_false_iff : environment.lacks name = false ↔ environment.HasReal name := by
  unfold lacks HasReal
  cases environment.lookup name with
  | none => simp
  | some current => simp [isPlaceholder_eq_false_iff]

theorem lookup_assignmentsOf :
    (assignmentsOf file).lookup name = some value ↔ LastAssigned file name value := by
  cases file with
  | none => simp [assignmentsOf, LastAssigned]
  | some content =>
    have hread : assignmentsOf (some content) =
        Keyed.ofPairs ((lines content).filterMap fun line => assignment? line.toList) := rfl
    rw [hread, Keyed.lookup_ofPairs_eq_some_iff]
    constructor
    · rintro ⟨before, after, hpairs, hafter⟩
      obtain ⟨head, tail, hlines, _, htail⟩ := List.filterMap_eq_append_iff.mp hpairs
      obtain ⟨skipped, line, rest, rfl, _, hline, rfl⟩ := List.filterMap_eq_cons_iff.mp htail
      refine ⟨content, head ++ skipped, line, rest, rfl, by simp [hlines], hline, ?_⟩
      intro later hlater other hassigns
      exact hafter (name, other) (List.mem_filterMap.mpr ⟨later, hlater, hassigns⟩) rfl
    · rintro ⟨_, before, line, after, hcontent, hlines, hline, hafter⟩
      obtain rfl := Option.some.inj hcontent
      refine ⟨before.filterMap fun line => assignment? line.toList,
        after.filterMap fun line => assignment? line.toList, by simp [hlines, hline], ?_⟩
      rintro ⟨key, other⟩ hpair rfl
      obtain ⟨later, hlater, hassigns⟩ := List.mem_filterMap.mp hpair
      exact hafter later hlater other hassigns

theorem mem_assignmentsOf :
    (name, value) ∈ assignmentsOf file ↔ LastAssigned file name value := by
  rw [Keyed.mem_iff_lookup (nodup_assignmentsOf file), lookup_assignmentsOf]

/-- A file without a NUL character gives no text with one. -/
theorem no_nul_of_lastAssigned (hfile : ∀ content, file = some content → hasNul content = false)
    (h : LastAssigned file name value) : hasNul name = false ∧ hasNul value = false := by
  obtain ⟨content, before, line, after, hcontent, hlines, hline, _⟩ := h
  obtain ⟨hname, hvalue⟩ := assignment?_subset hline
  have hnul : '\x00' ∉ line.toList := by
    intro hc
    have hmem : line ∈ lines content := by simp [hlines]
    obtain ⟨cut, hcut, rfl⟩ := List.mem_map.mp hmem
    rw [String.toList_ofList] at hc
    have hcontent := hasNul_eq_false_iff.mp (hfile content hcontent)
    exact hcontent (mem_of_mem_unifyLineEnds (by decide) (splitLines_subset hcut hc))
  exact ⟨hasNul_eq_false_iff.mpr fun hc => hnul (hname hc),
    hasNul_eq_false_iff.mpr fun hc => hnul (hvalue hc)⟩

/-- Assignments without a NUL character are written if their variables are lacking. -/
theorem fill_writes (environment : Environment) (hkeys : (assignments.map Prod.fst).Nodup)
    (hnul : ∀ entry ∈ assignments, hasNul entry.1 = false ∧ hasNul entry.2 = false) :
    (environment.fill assignments).stopped = false ∧
      (environment.fill assignments).written =
        assignments.filter fun entry => environment.lacks entry.1 := by
  induction assignments generalizing environment with
  | nil => exact ⟨rfl, rfl⟩
  | cons assignment rest ih =>
    obtain ⟨name, value⟩ := assignment
    obtain ⟨hnew, hrest⟩ := List.nodup_cons.mp hkeys
    obtain ⟨⟨hname, hvalue⟩, hlater⟩ := List.forall_mem_cons.mp hnul
    cases hl : environment.lacks name with
    | false =>
      rw [fill_kept hl, List.filter_cons_of_neg (by simp [hl])]
      exact ih environment hrest hlater
    | true =>
      have hlacks : ¬ (!environment.lacks name) = true := by simp [hl]
      obtain ⟨hstopped, hwritten⟩ :=
        ih (Keyed.put name value environment) hrest hlater
      rw [fill, if_neg hlacks, if_neg (by simp [hname, hvalue])]
      refine ⟨hstopped, ?_⟩
      -- The variable just written is not among the others.
      have hsame : ∀ entry ∈ rest, lacks (Keyed.put name value environment) entry.1 =
          environment.lacks entry.1 := by
        intro entry hentry
        apply lacks_congr
        rw [Keyed.lookup_put, if_neg]
        intro he
        exact hnew (List.mem_map.mpr ⟨entry, hentry, he⟩)
      rw [List.filter_cons_of_pos (by simpa using hl), ← List.filter_congr hsame]
      exact congrArg ((name, value) :: ·) hwritten

/-- Assignments that hold already, or whose variables are not lacking, change nothing. -/
theorem fill_eq_self (h : ∀ entry ∈ assignments,
    environment.lacks entry.1 = true → environment.lookup entry.1 = some entry.2) :
    (environment.fill assignments).environment = environment := by
  induction assignments with
  | nil => rfl
  | cons assignment rest ih =>
    obtain ⟨name, value⟩ := assignment
    obtain ⟨hfirst, hrest⟩ := List.forall_mem_cons.mp h
    cases hl : environment.lacks name with
    | false =>
      rw [fill_kept hl]
      exact ih hrest
    | true =>
      have hput : Keyed.put name value environment = environment := Keyed.put_eq_self (hfirst hl)
      have hlacks : ¬ (!environment.lacks name) = true := by simp [hl]
      rw [fill, if_neg hlacks, hput]
      split
      · rfl
      · exact ih hrest

end Environment

/-- What filling in from a file comes to. -/
structure Merges (environment : Environment) (file : Option String) (filled : Filled) : Prop where
  finished : filled.stopped = false
  kept : ∀ name current, environment.lookup name = some current → IsReal name current →
    filled.environment.lookup name = some current
  taken : ∀ name value, ¬ environment.HasReal name → Environment.LastAssigned file name value →
    filled.environment.lookup name = some value
  others : ∀ name, (∀ value, ¬ Environment.LastAssigned file name value) →
    filled.environment.lookup name = environment.lookup name
  written : ∀ name value, (name, value) ∈ filled.written ↔
    ¬ environment.HasReal name ∧ Environment.LastAssigned file name value
  distinct : (filled.written.map Prod.fst).Nodup
  again : (filled.environment.fillFrom file).environment = filled.environment

theorem fillFrom_merges (environment : Environment) {file : Option String}
    (hfile : ∀ content, file = some content → hasNul content = false) :
    Merges environment file (environment.fillFrom file) := by
  let assignments := Environment.assignmentsOf file
  have hkeys : (assignments.map Prod.fst).Nodup := Environment.nodup_assignmentsOf file
  have hnul : ∀ entry ∈ assignments, hasNul entry.1 = false ∧ hasNul entry.2 = false :=
    fun entry hentry =>
      Environment.no_nul_of_lastAssigned hfile (Environment.mem_assignmentsOf.mp hentry)
  obtain ⟨hstopped, hwritten⟩ := Environment.fill_writes environment hkeys hnul
  have hfill : environment.fillFrom file = environment.fill assignments := rfl
  have hlookup := Environment.lookup_fill hkeys hstopped
  have hreal (name : String) : environment.lacks name = true ↔ ¬ environment.HasReal name := by
    rw [← Environment.lacks_eq_false_iff, Bool.not_eq_false]
  have hkept (name : String) (h : environment.HasReal name) :
      (environment.fill assignments).environment.lookup name = environment.lookup name := by
    rw [hlookup, Environment.lacks_eq_false_iff.mpr h]
    rfl
  have htaken (name value : String) (h : ¬ environment.HasReal name)
      (hfound : Environment.LastAssigned file name value) :
      (environment.fill assignments).environment.lookup name = some value := by
    rw [hlookup, if_pos ((hreal name).mpr h), Environment.lookup_assignmentsOf.mpr hfound]
    rfl
  rw [hfill]
  refine ⟨hstopped, ?_, htaken, ?_, ?_, ?_, ?_⟩
  · intro name current hcurrent h
    exact (hkept name ⟨current, hcurrent, h⟩).trans hcurrent
  · intro name hnone
    have hmissing : assignments.lookup name = none := by
      cases hl : assignments.lookup name with
      | none => rfl
      | some value => exact absurd (Environment.lookup_assignmentsOf.mp hl) (hnone value)
    rw [hlookup, hmissing, Option.none_or, ite_self]
  · intro name value
    rw [hwritten, List.mem_filter, Environment.mem_assignmentsOf, hreal]
    exact and_comm
  · rw [hwritten]
    exact hkeys.sublist (List.filter_sublist.map Prod.fst)
  · refine Environment.fill_eq_self ?_
    rintro ⟨name, value⟩ hentry hlacks
    dsimp only at hlacks
    by_cases h : environment.HasReal name
    · rw [Environment.lacks_congr (hkept name h), Environment.lacks_eq_false_iff.mpr h] at hlacks
      cases hlacks
    · exact htaken name value h (Environment.mem_assignmentsOf.mp hentry)

end Storyboard
