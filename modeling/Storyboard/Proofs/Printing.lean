import Storyboard.Json.Compact
import Storyboard.Proofs.Numerals
import Storyboard.Proofs.Units

/-!
# Values without blanks, read again

A value that holds no whole number and no infinite one is read as it was written, whatever
stands behind it. The induction is on the value. A list is written as its items with a comma
or the bracket behind each, so what follows an item always ends a number; the same shape
serves the entries of an object. Every step of the reader takes a character at least, and
the steps that are left outnumber the characters.
-/

namespace Storyboard

namespace Keyed

variable {entries : List (String × α)}

theorem put_of_notMem {key : String} (h : key ∉ entries.map Prod.fst) (value : α) :
    put key value entries = entries ++ [(key, value)] := by
  induction entries with
  | nil => rfl
  | cons entry rest ih =>
    rw [List.map_cons, List.mem_cons, not_or] at h
    rw [put, if_neg (Ne.symm h.1), ih h.2, List.cons_append]

/-- Pairs whose keys differ from each other are a map as they are. -/
theorem ofPairs_of_nodup (h : (entries.map Prod.fst).Nodup) : ofPairs entries = entries := by
  have hfold (before after : List (String × α)) (h : ((before ++ after).map Prod.fst).Nodup) :
      after.foldl (fun found pair => put pair.1 pair.2 found) before = before ++ after := by
    induction after generalizing before with
    | nil => rw [List.foldl_nil, List.append_nil]
    | cons pair rest ih =>
      have hnew : pair.1 ∉ before.map Prod.fst := by
        rw [List.map_append, List.nodup_append] at h
        exact fun hm => h.2.2 _ hm _ List.mem_cons_self rfl
      rw [List.foldl_cons, put_of_notMem hnew, ih, List.append_assoc, List.singleton_append]
      rwa [List.append_assoc, List.singleton_append]
  exact hfold [] entries h

end Keyed

namespace Json

open Storyboard.Text
open Decimal (Ends)

/-- A value without whole numbers, whose other numbers are finite and whose keys are of ASCII
and differ in each object, with at most `room` lists and objects in each other. -/
inductive Plain : ℕ → Json → Prop
  | null (room : ℕ) : Plain room .null
  | bool (room : ℕ) (value : Bool) : Plain room (.bool value)
  | float (room : ℕ) {x : Float} (h : x.isFinite = true) : Plain room (.float x)
  | text (room : ℕ) (value : String) : Plain room (.text value)
  | list {room : ℕ} {items : List Json} (h : ∀ item ∈ items, Plain room item) :
    Plain (room + 1) (.list items)
  | object {room : ℕ} {entries : Entries} (hkeys : (entries.map Prod.fst).Nodup)
    (hascii : ∀ entry ∈ entries, ∀ c ∈ entry.1.toList, c.toNat < 0x80)
    (h : ∀ entry ∈ entries, Plain room entry.2) : Plain (room + 1) (.object entries)

theorem Plain.mono {room wider : ℕ} {value : Json} (h : Plain room value) (hle : room ≤ wider) :
    Plain wider value := by
  induction h generalizing wider with
  | null => exact .null _
  | bool => exact .bool _ _
  | float _ hx => exact .float _ hx
  | text => exact .text _ _
  | list h ih =>
    obtain ⟨wider, rfl⟩ := Nat.exists_eq_succ_of_ne_zero (Nat.ne_zero_of_lt hle)
    exact .list fun item hm => ih item hm (Nat.le_of_succ_le_succ hle)
  | object hkeys hascii h ih =>
    obtain ⟨wider, rfl⟩ := Nat.exists_eq_succ_of_ne_zero (Nat.ne_zero_of_lt hle)
    exact .object hkeys hascii fun entry hm => ih entry hm (Nat.le_of_succ_le_succ hle)

section Form

variable (layout : Decimal.Layout)

/-- The characters of a text between its quotes. -/
def compactBody (text : String) : List Char := text.toList.flatMap compactChar

/-- The characters of a value without blanks. -/
def compactChars (value : Json) : List Char := (value.compactIn layout).toList

/-- The characters of an entry without blanks. -/
def entryChars (entry : String × Json) : List Char :=
  '"' :: (compactBody entry.1 ++ '"' :: ':' :: compactChars layout entry.2)

/-- Pieces with commas between them and a bracket behind the last. -/
def closed (bracket : Char) (pieces : List (List Char)) : List Char :=
  [','].intercalate pieces ++ [bracket]

/-- What stands behind a piece: the bracket, or a comma and the pieces that follow. -/
def behind (bracket : Char) : List (List Char) → List Char
  | [] => [bracket]
  | next :: pieces => ',' :: closed bracket (next :: pieces)

theorem closed_cons (bracket : Char) (piece : List Char) (pieces : List (List Char)) :
    closed bracket (piece :: pieces) = piece ++ behind bracket pieces := by
  cases pieces with
  | nil => simp [closed, behind, List.intercalate]
  | cons next pieces => simp [closed, behind, List.intercalate_cons_cons]

theorem ends_behind {bracket : Char} (hb : bracket = ']' ∨ bracket = '\x7d')
    (pieces : List (List Char)) (rest : List Char) : Ends (behind bracket pieces ++ rest) := by
  cases pieces with
  | nil => exact Or.inr ⟨bracket, rest, rfl, Or.inr hb⟩
  | cons next pieces => exact Or.inr ⟨',', _, rfl, Or.inl rfl⟩

theorem compactItems_eq (items : List Json) :
    compactItems layout items = items.map (compactIn layout) := by
  induction items with
  | nil => rfl
  | cons item rest ih => rw [compactItems, ih, List.map_cons]

theorem compactEntries_eq (entries : Entries) :
    compactEntries layout entries =
      entries.map fun entry => compactText entry.1 ++ ":" ++ compactIn layout entry.2 := by
  induction entries with
  | nil => rfl
  | cons entry rest ih => rw [compactEntries, ih, List.map_cons]

theorem toList_compactText (text : String) :
    (compactText text).toList = '"' :: (compactBody text ++ ['"']) :=
  String.toList_ofList

theorem compactChars_null : compactChars layout .null = ['n', 'u', 'l', 'l'] := by
  rw [compactChars, compactIn]
  rfl

theorem compactChars_bool (value : Bool) :
    compactChars layout (.bool value) =
      if value then ['t', 'r', 'u', 'e'] else ['f', 'a', 'l', 's', 'e'] := by
  rw [compactChars, compactIn]
  cases value <;> rfl

theorem compactChars_text (text : String) :
    compactChars layout (.text text) = '"' :: (compactBody text ++ ['"']) := by
  rw [compactChars, compactIn, toList_compactText]

theorem compactChars_list (items : List Json) :
    compactChars layout (.list items) = '[' :: closed ']' (items.map (compactChars layout)) := by
  have hitems : (items.map (compactIn layout)).map String.toList =
      items.map (compactChars layout) := List.map_map
  rw [compactChars, compactIn, compactItems_eq, String.toList_append, String.toList_append,
    String.toList_intercalate, hitems]
  rfl

theorem compactChars_object (entries : Entries) :
    compactChars layout (.object entries) =
      '\x7b' :: closed '\x7d' (entries.map (entryChars layout)) := by
  have hentries : (entries.map fun entry =>
      compactText entry.1 ++ ":" ++ compactIn layout entry.2).map String.toList =
      entries.map (entryChars layout) := by
    rw [List.map_map]
    refine List.map_congr_left fun entry _ => ?_
    simp [toList_compactText, entryChars, compactChars]
  rw [compactChars, compactIn, compactEntries_eq, String.toList_append, String.toList_append,
    String.toList_intercalate, hentries]
  rfl

end Form

section Text

variable {opened : ℕ} {rest : List Char}

theorem readCodes_compactChar (c : Char) (hrest : rest ≠ []) :
    readCodes opened (compactChar c ++ rest) = addCode c.toNat (readCodes opened rest) := by
  unfold compactChar
  split
  · next letter hs => exact readCodes_shortEscape hs
  · next hnone =>
    obtain ⟨hq, hb⟩ := shortEscape?_eq_none hnone
    split
    · next hc => exact readCodes_unitEscape (by omega) hrest
    · next hc => exact readCodes_plain hq hb hc

theorem readCodes_compactBody (text : List Char) :
    readCodes opened (text.flatMap compactChar ++ '"' :: rest) =
      .ok (text.map Char.toNat, rest) := by
  induction text with
  | nil => rfl
  | cons c text ih =>
    have hmore : text.flatMap compactChar ++ '"' :: rest ≠ [] := by simp
    rw [List.flatMap_cons, List.append_assoc, readCodes_compactChar c hmore, ih]
    rfl

/-- Codes of characters are no halves, so none of them are joined. -/
theorem joinUnits_toNat (text : List Char) : joinUnits (text.map Char.toNat) = text := by
  induction text with
  | nil => rfl
  | cons c text ih =>
    have hnot := not_high_of_not_half (toNat_not_half c)
    rw [List.map_cons, joinUnits_lone, ih, loneChar_toNat]
    rintro low more _ hhigh
    rw [hnot] at hhigh
    contradiction

/-- A text is read as it was written. -/
theorem readText_compactBody (text : String) (rest : List Char) :
    readText (compactBody text ++ '"' :: rest) = .ok (text, rest) := by
  rw [readText, compactBody, readCodes_compactBody]
  change Except.ok (String.ofList (joinUnits (text.toList.map Char.toNat)), rest) = _
  rw [joinUnits_toNat, String.ofList_toList]

end Text

section Value

variable {layout : Decimal.Layout} {rest : List Char} {room : ℕ}

/-- A digit, or a minus sign and a digit, begin no named value. -/
theorem namedAt?_of_digit {c : Char} (h : c.isDigit = true) (negative : Bool) (more : List Char) :
    namedAt? (Decimal.signChars negative ++ c :: more) = none := by
  have hne (letter : Char) (hl : letter.isDigit = false) : (letter == c) = false := by
    rw [beq_eq_false_iff_ne]
    rintro rfl
    rw [h] at hl
    contradiction
  cases negative <;>
    simp [namedAt?, namedValues, Decimal.signChars, List.isPrefixOf, hne]

theorem compactChars_float {x : Float} (hx : x.isFinite = true) :
    compactChars layout (.float x) = (layout.write Decimal.shortestDigits x).toList := by
  have hnan : x.isNaN = false := by
    change x.toModel.unpack.isNaN = false
    have hfinite : x.toModel.unpack.isFinite = true := hx
    cases hu : x.toModel.unpack <;> rw [hu] at hfinite <;> first | rfl | contradiction
  have hinf : x.isInf = false := by
    change x.toModel.unpack.isInf = false
    have hfinite : x.toModel.unpack.isFinite = true := hx
    cases hu : x.toModel.unpack <;> rw [hu] at hfinite <;> first | rfl | contradiction
  rw [compactChars, compactIn, compactDouble, hnan, hinf]
  rfl

/-- What begins like a number and is no name is read as a number. -/
theorem readValue_number {first : Char} {more : List Char}
    (hfirst : first = '-' ∨ first.isDigit = true) (hname : namedAt? (first :: more) = none)
    (depth : ℕ) :
    readValue (depth + 1) room (first :: more) = readNumber (first :: more) := by
  rw [readValue, hname]
  all_goals
    rintro other heq
    obtain ⟨rfl, _⟩ := List.cons.inj heq
    rcases hfirst with hminus | hdigit
    · exact absurd hminus (by decide)
    · contradiction

/-- A finite double is read as it was written. -/
theorem readValue_float (hpoint : layout.showsPoint = true) {x : Float} (hx : x.isFinite = true)
    (hrest : Ends rest) (depth : ℕ) :
    readValue (depth + 1) room (compactChars layout (.float x) ++ rest) = .ok (.float x, rest) := by
  obtain ⟨negative, numeral, hsound, hchars, _⟩ := layout.exists_written hpoint hx
  obtain ⟨first, more, hfirst, hdigit⟩ := numeral.exists_first hsound
  have hnumber := @Decimal.readNumber_write layout hpoint x hx rest hrest
  rw [compactChars_float hx]
  rw [hchars, hfirst] at hnumber ⊢
  have hname := namedAt?_of_digit hdigit negative (more ++ rest)
  rw [List.append_assoc, List.cons_append] at hnumber ⊢
  cases negative with
  | true => exact (readValue_number (Or.inl rfl) hname depth).trans hnumber
  | false => exact (readValue_number (Or.inr hdigit) hname depth).trans hnumber

/-- A value is read as it was written, whatever ends it. -/
def ReadsBack (layout : Decimal.Layout) (room : ℕ) (value : Json) : Prop :=
  ∀ depth rest, (compactChars layout value).length ≤ depth → Ends rest →
    readValue depth room (compactChars layout value ++ rest) = .ok (value, rest)

/-- A character of ASCII that is no blank and closes no list. -/
structure Leads (first : Char) : Prop where
  solid : isGap first = false
  inside : first ≠ ']'
  ascii : first.toNat < 0x80

theorem leads_of_digit {c : Char} (h : c.isDigit = true) : Leads c := by
  have hrange : '0'.toNat ≤ c.toNat ∧ c.toNat ≤ '9'.toNat := by
    rw [Char.isDigit, Bool.and_eq_true, decide_eq_true_eq, decide_eq_true_eq] at h
    exact h
  refine ⟨?_, ?_, ?_⟩
  · by_contra hgap
    simp only [isGap, Bool.not_eq_false, Bool.or_eq_true, beq_iff_eq] at hgap
    rcases hgap with ((rfl | rfl) | rfl) | rfl <;> contradiction
  · rintro rfl
    contradiction
  · exact lt_of_le_of_lt hrange.2 (by decide)

/-- What a value begins with. -/
theorem exists_compactChars (hpoint : layout.showsPoint = true) {value : Json}
    (h : Plain room value) : ∃ first more, compactChars layout value = first :: more ∧ Leads first := by
  cases h with
  | null => exact ⟨'n', _, compactChars_null layout, rfl, by decide, by decide⟩
  | bool room value =>
    cases value with
    | true => exact ⟨'t', _, compactChars_bool layout true, rfl, by decide, by decide⟩
    | false => exact ⟨'f', _, compactChars_bool layout false, rfl, by decide, by decide⟩
  | float room hx =>
    obtain ⟨negative, numeral, hsound, hchars, _⟩ := layout.exists_written hpoint hx
    obtain ⟨first, more, hfirst, hdigit⟩ := numeral.exists_first hsound
    rw [compactChars_float hx, hchars, hfirst]
    cases negative with
    | true => exact ⟨'-', _, rfl, rfl, by decide, by decide⟩
    | false => exact ⟨first, more, rfl, leads_of_digit hdigit⟩
  | text room value => exact ⟨'"', _, compactChars_text layout value, rfl, by decide, by decide⟩
  | list => exact ⟨'[', _, compactChars_list layout _, rfl, by decide, by decide⟩
  | object => exact ⟨'\x7b', _, compactChars_object layout _, rfl, by decide, by decide⟩

theorem skipGap_of_first {first : Char} (h : isGap first = false) (more : List Char) :
    skipGap (first :: more) = first :: more := by
  rw [skipGap, List.dropWhile_cons_of_neg (by simp [h])]

theorem readValue_bracket_eq (depth : ℕ) (text : List Char) :
    readValue (depth + 1) (room + 1) ('[' :: text) =
      match skipGap text with
      | ']' :: rest => .ok (.list [], rest)
      | rest => (readItems depth (room + 1) rest).map fun read => (.list read.1, read.2) := rfl

/-- Behind an opening bracket stand the items, unless it is closed at once. -/
theorem readValue_bracket {first : Char} (h : Leads first) (depth : ℕ)
    (more : List Char) :
    readValue (depth + 1) (room + 1) ('[' :: first :: more) =
      (readItems depth (room + 1) (first :: more)).map fun read => (.list read.1, read.2) := by
  rw [readValue_bracket_eq, skipGap_of_first h.solid more]
  split
  · next heq => exact absurd (List.cons.inj heq).1 h.inside
  · rfl

theorem readItems_closed (hpoint : layout.showsPoint = true) {items : List Json}
    (hplain : ∀ item ∈ items, Plain room item)
    (hitems : ∀ item ∈ items, ReadsBack layout room item) (hne : items ≠ []) (depth : ℕ)
    (hdepth : (closed ']' (items.map (compactChars layout))).length ≤ depth) :
    readItems depth (room + 1) (closed ']' (items.map (compactChars layout)) ++ rest) =
      .ok (items, rest) := by
  induction items generalizing depth with
  | nil => contradiction
  | cons item items ih =>
    rw [List.forall_mem_cons] at hplain hitems
    rw [List.map_cons, closed_cons] at hdepth ⊢
    have hends := ends_behind (Or.inl rfl) (items.map (compactChars layout)) rest
    cases items with
    | nil =>
      simp only [List.map_nil, behind, List.length_append, List.length_singleton] at hdepth hends ⊢
      obtain ⟨depth, rfl⟩ := Nat.exists_eq_succ_of_ne_zero (Nat.ne_zero_of_lt hdepth)
      rw [List.append_assoc, readItems, Nat.add_sub_cancel, hitems.1 depth _ (by omega) hends]
      rfl
    | cons next items =>
      simp only [List.map_cons, behind, List.length_append, List.length_cons] at hdepth hends ⊢
      obtain ⟨depth, rfl⟩ := Nat.exists_eq_succ_of_ne_zero (Nat.ne_zero_of_lt hdepth)
      have hmore := ih hplain.2 hitems.2 (List.cons_ne_nil _ _) depth (by rw [List.map_cons]; omega)
      obtain ⟨first, more, hfirst, hlead⟩ := exists_compactChars hpoint (hplain.2 next (.head _))
      rw [List.append_assoc, readItems, Nat.add_sub_cancel, hitems.1 depth _ (by omega) hends]
      change Except.bind (readItems depth (room + 1)
        (skipGap (closed ']' ((next :: items).map (compactChars layout)) ++ rest))) _ = _
      rw [List.map_cons, closed_cons, List.append_assoc, hfirst, List.cons_append] at hmore ⊢
      rw [skipGap_of_first hlead.solid, hmore]
      rfl

/-- What is read after an entry depends on what stands behind its value. -/
theorem readPairs_entry (hpoint : layout.showsPoint = true) {key : String} {value : Json}
    (hplain : Plain room value) (hvalue : ReadsBack layout room value) {depth : ℕ}
    {tail : List Char} (hends : Ends tail)
    (hdepth : (compactChars layout value).length ≤ depth) :
    readPairs (depth + 1) (room + 1) (entryChars layout (key, value) ++ tail) =
      match skipGap tail with
      | '\x7d' :: rest => .ok ([(key, value)], rest)
      | ',' :: rest => do
        let (pairs, rest) ← readPairs depth (room + 1) (skipGap rest)
        .ok ((key, value) :: pairs, rest)
      | rest => flawAt .noComma rest := by
  obtain ⟨first, more, hfirst, hlead⟩ := exists_compactChars hpoint hplain
  have hskip : skipGap (compactChars layout value ++ tail) = compactChars layout value ++ tail := by
    rw [hfirst]
    exact skipGap_of_first hlead.solid _
  have htext := readText_compactBody key (':' :: (compactChars layout value ++ tail))
  rw [entryChars, List.cons_append, List.append_assoc, List.cons_append, List.cons_append,
    readPairs, htext]
  change Except.bind (readValue depth room (skipGap (compactChars layout value ++ tail))) _ = _
  rw [hskip, hvalue depth tail hdepth hends]
  rfl

theorem readPairs_closed (hpoint : layout.showsPoint = true) {entries : Entries}
    (hplain : ∀ entry ∈ entries, Plain room entry.2)
    (hentries : ∀ entry ∈ entries, ReadsBack layout room entry.2) (hne : entries ≠ []) (depth : ℕ)
    (hdepth : (closed '\x7d' (entries.map (entryChars layout))).length ≤ depth) :
    readPairs depth (room + 1) (closed '\x7d' (entries.map (entryChars layout)) ++ rest) =
      .ok (entries, rest) := by
  induction entries generalizing depth with
  | nil => contradiction
  | cons entry entries ih =>
    rw [List.forall_mem_cons] at hplain hentries
    obtain ⟨key, value⟩ := entry
    have hfirst : Plain room value := hplain.1
    have hvalue : ReadsBack layout room value := hentries.1
    rw [List.map_cons, closed_cons] at hdepth ⊢
    have hends := ends_behind (Or.inr rfl) (entries.map (entryChars layout)) rest
    have hlength : (entryChars layout (key, value)).length =
        (compactBody key).length + (compactChars layout value).length + 3 := by
      simp only [entryChars, List.length_append, List.length_cons]
      omega
    cases entries with
    | nil =>
      simp only [List.map_nil, behind, List.length_append, List.length_singleton] at hdepth hends ⊢
      obtain ⟨depth, rfl⟩ := Nat.exists_eq_succ_of_ne_zero (Nat.ne_zero_of_lt hdepth)
      rw [List.append_assoc, readPairs_entry hpoint hfirst hvalue hends (by omega)]
      rfl
    | cons next entries =>
      simp only [List.map_cons, behind, List.length_append, List.length_cons] at hdepth hends ⊢
      obtain ⟨depth, rfl⟩ := Nat.exists_eq_succ_of_ne_zero (Nat.ne_zero_of_lt hdepth)
      have hmore := ih hplain.2 hentries.2 (List.cons_ne_nil _ _) depth
        (by rw [List.map_cons]; omega)
      rw [List.append_assoc, readPairs_entry hpoint hfirst hvalue hends (by omega)]
      change Except.bind (readPairs depth (room + 1)
        (skipGap (closed '\x7d' ((next :: entries).map (entryChars layout)) ++ rest))) _ = _
      rw [List.map_cons, closed_cons, entryChars, List.append_assoc, List.cons_append] at hmore ⊢
      rw [skipGap_of_first rfl, hmore]
      rfl

/-- A plain value is read as it was written. -/
theorem Plain.readsBack (hpoint : layout.showsPoint = true) {value : Json} (h : Plain room value) :
    ReadsBack layout room value := by
  induction h with
  | null room =>
    intro depth rest hdepth _
    rw [compactChars_null] at hdepth ⊢
    obtain ⟨depth, rfl⟩ := Nat.exists_eq_succ_of_ne_zero (Nat.ne_zero_of_lt hdepth)
    rfl
  | bool room value =>
    intro depth rest hdepth _
    rw [compactChars_bool] at hdepth ⊢
    cases value <;>
    · obtain ⟨depth, rfl⟩ := Nat.exists_eq_succ_of_ne_zero (Nat.ne_zero_of_lt hdepth)
      rfl
  | float room hx =>
    intro depth rest hdepth hrest
    obtain ⟨first, more, hfirst, _⟩ := exists_compactChars hpoint (Plain.float room hx)
    rw [hfirst, List.length_cons] at hdepth
    obtain ⟨depth, rfl⟩ := Nat.exists_eq_succ_of_ne_zero (Nat.ne_zero_of_lt hdepth)
    exact readValue_float hpoint hx hrest depth
  | text room value =>
    intro depth rest hdepth _
    rw [compactChars_text, List.length_cons] at hdepth
    obtain ⟨depth, rfl⟩ := Nat.exists_eq_succ_of_ne_zero (Nat.ne_zero_of_lt hdepth)
    rw [compactChars_text, List.cons_append, List.append_assoc, List.singleton_append, readValue,
      readText_compactBody]
    rfl
  | @list room items h ih =>
    intro depth rest hdepth _
    rw [compactChars_list, List.length_cons] at hdepth
    obtain ⟨depth, rfl⟩ := Nat.exists_eq_succ_of_ne_zero (Nat.ne_zero_of_lt hdepth)
    rw [compactChars_list, List.cons_append]
    cases items with
    | nil => rfl
    | cons item items =>
      have hread := @readItems_closed _ rest _ hpoint _ h ih (List.cons_ne_nil _ _) depth
        (Nat.le_of_succ_le_succ hdepth)
      obtain ⟨first, more, hfirst, hlead⟩ :=
        exists_compactChars hpoint (h item List.mem_cons_self)
      rw [List.map_cons, closed_cons, hfirst, List.cons_append, List.cons_append] at hread ⊢
      rw [readValue_bracket hlead, hread]
      rfl
  | @object room entries hkeys hascii h ih =>
    intro depth rest hdepth _
    rw [compactChars_object, List.length_cons] at hdepth
    obtain ⟨depth, rfl⟩ := Nat.exists_eq_succ_of_ne_zero (Nat.ne_zero_of_lt hdepth)
    rw [compactChars_object, List.cons_append]
    cases entries with
    | nil => rfl
    | cons entry entries =>
      have hread := @readPairs_closed _ rest _ hpoint _ h ih (List.cons_ne_nil _ _) depth
        (Nat.le_of_succ_le_succ hdepth)
      rw [List.map_cons, closed_cons, entryChars, List.cons_append, List.cons_append] at hread ⊢
      change Except.map (fun read => (Json.object (Keyed.ofPairs read.1), read.2))
        (readPairs depth (room + 1) ('"' :: _)) = _
      rw [hread]
      change Except.ok (Json.object (Keyed.ofPairs (entry :: entries)), rest) = _
      rw [Keyed.ofPairs_of_nodup hkeys]

/-- The whole text is read as the value from which it was written. -/
theorem Plain.read_compactIn (hpoint : layout.showsPoint = true) {value : Json}
    (h : Plain room value) : Json.read room (value.compactIn layout) = .ok value := by
  obtain ⟨first, more, hfirst, hlead⟩ := exists_compactChars hpoint h
  have hchars : (value.compactIn layout).toList = first :: more := hfirst
  have hmark : refuseMark (first :: more) = .ok () := by
    refine if_neg fun he => ?_
    have hascii := hlead.ascii
    rw [List.head?_cons, Option.some.injEq] at he
    rw [he] at hascii
    contradiction
  have hread := h.readsBack hpoint (2 * (first :: more).length + 2) [] (by rw [hfirst]; omega)
    (Or.inl rfl)
  rw [List.append_nil, hfirst] at hread
  rw [Json.read, readDecoded, hchars, hmark, readDocument, skipGap_of_first hlead.solid, hread]
  rfl

end Value

end Json

end Storyboard
