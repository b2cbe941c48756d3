import Mathlib.Data.List.Forall2
import Mathlib.Data.List.Nodup
import Storyboard.Proofs.Checks

/-!
# Two spellings of one payload

Callers write the name of a field in camel case or with underscores. A form lists the fields
of a record by the names under which they are stored, and what may be written in place of the
value of each. No two of its names are one in camel case, so an object that has each field
once holds the same under either spelling. What a reader says of a payload follows the form:
the same value, or the same complaints at the same places.
-/

namespace Storyboard

open Checking

namespace Checking

section Names

/-- The characters without underscores, and with a capital after each. -/
def camelChars (raised : Bool) : List Char → List Char
  | [] => []
  | c :: rest =>
    if c = '_' then camelChars true rest
    else (if raised then c.toUpper else c) :: camelChars false rest

def camelCase (name : String) : String := String.ofList (camelChars false name.toList)

theorem toUpper_ne_underscore {c : Char} (h : c ≠ '_') : c.toUpper ≠ '_' := by
  unfold Char.toUpper
  split
  · next hsmall =>
    intro he
    have hlow : 97 ≤ c.toNat := hsmall.1
    have hhigh : c.toNat ≤ 122 := hsmall.2
    have hval : (c.toNat + 4294967264) % 4294967296 = 95 := by
      simpa using UInt32.toNat_inj.mpr (Char.ext_iff.mp he)
    omega
  · exact h

theorem underscore_notMem_camelChars (raised : Bool) (chars : List Char) :
    '_' ∉ camelChars raised chars := by
  induction chars generalizing raised with
  | nil => exact List.not_mem_nil
  | cons c rest ih =>
    rw [camelChars]
    split
    · exact ih true
    · next hc =>
      rw [List.mem_cons, not_or]
      refine ⟨?_, ih false⟩
      cases raised with
      | true => exact (toUpper_ne_underscore hc).symm
      | false => exact Ne.symm hc

theorem camelChars_eq_self {chars : List Char} (h : '_' ∉ chars) :
    camelChars false chars = chars := by
  induction chars with
  | nil => rfl
  | cons c rest ih =>
    rw [List.mem_cons, not_or] at h
    rw [camelChars, if_neg (Ne.symm h.1), ih h.2]
    rfl

@[simp]
theorem camelCase_camelCase (name : String) : camelCase (camelCase name) = camelCase name := by
  rw [camelCase, camelCase, String.toList_ofList,
    camelChars_eq_self (underscore_notMem_camelChars false _)]

end Names

/-- What may be written in place of a value. -/
abbrev Respelling := Json → Json → Prop

/-- A list with items in place of which others may be written. -/
inductive Relisted (item : Respelling) : Respelling where
  | same (value : Json) : Relisted item value value
  | items {inputs others : List Json} (h : List.Forall₂ item inputs others) :
    Relisted item (.list inputs) (.list others)

def Name.spellings (name : Name) : List String := [name.outer, name.inner]

/-- Both spellings of a field are there. -/
def Name.BothIn (name : Name) (entries : Json.Entries) : Prop :=
  name.outer ≠ name.inner ∧
    name.outer ∈ entries.map Prod.fst ∧ name.inner ∈ entries.map Prod.fst

instance (name : Name) (entries : Json.Entries) : Decidable (name.BothIn entries) :=
  inferInstanceAs (Decidable (_ ∧ _ ∧ _))

/-- The fields of a record, and what may be written in place of their values. -/
structure Form where
  fields : List (Name × Respelling)
  camel : ∀ field ∈ fields, field.1.outer = camelCase field.1.inner
  apart : (fields.map fun field => field.1.outer).Nodup

/-- Both entries are of the field, each under one of its names. -/
structure Respelled (field : Name × Respelling) (entry other : String × Json) : Prop where
  key : entry.1 ∈ field.1.spellings
  otherKey : other.1 ∈ field.1.spellings
  value : entry.2 = other.2 ∨ field.2 entry.2 other.2

namespace Form

/-- An entry stays as it is, or it is a known field under another spelling. -/
def Entry (form : Form) (entry other : String × Json) : Prop :=
  entry = other ∨ ∃ field ∈ form.fields, Respelled field entry other

/-- Entries that differ in how known fields are spelled. None has both spellings of a field. -/
structure Entries (form : Form) (entries others : Json.Entries) : Prop where
  pairs : List.Forall₂ form.Entry entries others
  single : ∀ field ∈ form.fields, ¬ field.1.BothIn entries
  otherSingle : ∀ field ∈ form.fields, ¬ field.1.BothIn others

/-- What may be written in place of an object with these fields. -/
inductive Object (form : Form) : Respelling where
  | same (value : Json) : form.Object value value
  | entries {entries others : Json.Entries} (h : form.Entries entries others) :
    form.Object (.object entries) (.object others)

variable {form : Form} {field other : Name × Respelling} {key : String}

theorem camelCase_of_mem_spellings (hf : field ∈ form.fields) (h : key ∈ field.1.spellings) :
    camelCase key = field.1.outer := by
  rcases List.mem_cons.mp h with rfl | h
  · rw [form.camel field hf, camelCase_camelCase]
  · obtain rfl := List.mem_singleton.mp h
    exact (form.camel field hf).symm

/-- No name is a spelling of two fields. -/
theorem eq_of_mem_spellings (hf : field ∈ form.fields) (ho : other ∈ form.fields)
    (h : key ∈ field.1.spellings) (h' : key ∈ other.1.spellings) : field = other := by
  refine List.inj_on_of_nodup_map form.apart hf ho ?_
  rw [← camelCase_of_mem_spellings hf h, camelCase_of_mem_spellings ho h']

end Form

section Find

variable {form : Form} {field : Name × Respelling} {entries others : Json.Entries}

theorem find?_cons_of_ne {name : Name} {entry : String × Json} (h : entry.1 ∉ name.spellings) :
    name.find? (entry :: entries) = name.find? entries := by
  rw [Name.spellings, List.mem_cons, List.mem_singleton, not_or] at h
  have houter : (name.outer == entry.1) = false := beq_false_of_ne (Ne.symm h.1)
  have hinner : (name.inner == entry.1) = false := beq_false_of_ne (Ne.symm h.2)
  rw [Name.find?, Name.find?, List.lookup_cons, List.lookup_cons, houter, hinner]

/-- The entry of a field that is there once is the first one under any of its names. -/
theorem find?_of_single {name : Name} (h : ¬ name.BothIn entries) :
    name.find? entries = entries.find? fun entry => entry.1 ∈ name.spellings := by
  induction entries with
  | nil => rfl
  | cons entry rest ih =>
    obtain ⟨key, value⟩ := entry
    by_cases hkey : key ∈ name.spellings
    · rw [List.find?_cons_of_pos (by simpa using hkey)]
      by_cases houter : key = name.outer
      · rw [houter, Name.find?, List.lookup_cons_self]
      · have hinner : key = name.inner := by simpa [Name.spellings, houter] using hkey
        -- Otherwise both names would be there.
        have habsent : ((key, value) :: rest).lookup name.outer = none := by
          rw [List.lookup_eq_none_iff]
          intro entry hm
          rw [bne_iff_ne]
          intro houter'
          refine h ⟨fun he => houter (hinner.trans he.symm), ?_, ?_⟩
          · rw [houter']
            exact List.mem_map_of_mem hm
          · rw [← hinner]
            exact List.mem_map_of_mem List.mem_cons_self
        rw [Name.find?, habsent, hinner, List.lookup_cons_self]
        rfl
    · rw [find?_cons_of_ne hkey, List.find?_cons_of_neg (by simpa using hkey)]
      refine ih fun hboth => h ⟨hboth.1, ?_, ?_⟩
      · exact List.mem_cons_of_mem _ hboth.2.1
      · exact List.mem_cons_of_mem _ hboth.2.2

theorem respelled_find? (hf : field ∈ form.fields) (h : List.Forall₂ form.Entry entries others) :
    let named := fun entry : String × Json => decide (entry.1 ∈ field.1.spellings)
    entries.find? named = none ∧ others.find? named = none ∨
      ∃ entry other, entries.find? named = some entry ∧ others.find? named = some other ∧
        Respelled field entry other := by
  intro named
  -- A name of this field is replaced by a name of this field, and no other name by one.
  induction h with
  | nil => exact .inl ⟨rfl, rfl⟩
  | @cons entry other _ _ hentry _ ih =>
    by_cases hkey : entry.1 ∈ field.1.spellings
    · have hother : Respelled field entry other := by
        rcases hentry with rfl | ⟨found, hfound, hrespelled⟩
        · exact ⟨hkey, hkey, .inl rfl⟩
        · obtain rfl := Form.eq_of_mem_spellings hf hfound hkey hrespelled.key
          exact hrespelled
      exact .inr ⟨entry, other, List.find?_cons_of_pos (decide_eq_true hkey),
        List.find?_cons_of_pos (decide_eq_true hother.otherKey), hother⟩
    · have hother : other.1 ∉ field.1.spellings := by
        rcases hentry with rfl | ⟨found, hfound, hrespelled⟩
        · exact hkey
        · intro hm
          obtain rfl := Form.eq_of_mem_spellings hf hfound hm hrespelled.otherKey
          exact hkey hrespelled.key
      rw [List.find?_cons_of_neg (by simpa [named] using hkey),
        List.find?_cons_of_neg (by simpa [named] using hother)]
      exact ih

/-- A known field is there in neither of the objects, or in both. -/
theorem Form.Entries.find? (h : form.Entries entries others) (hf : field ∈ form.fields) :
    field.1.find? entries = none ∧ field.1.find? others = none ∨
      ∃ entry other, field.1.find? entries = some entry ∧ field.1.find? others = some other ∧
        Respelled field entry other := by
  rw [find?_of_single (h.single field hf), find?_of_single (h.otherSingle field hf)]
  exact respelled_find? hf h.pairs

end Find

section Complaints

/-- A step with its name in camel case. -/
def Step.camel : Step → Step
  | .key name => .key (camelCase name)
  | .index position => .index position

/-- The place and the cause of an issue, however names are spelled. -/
def Issue.gist (issue : Issue) : List Step × Cause := (issue.path.map Step.camel, issue.cause)

/-- The same verdict: the same value, or issues at the same places for the same causes. -/
inductive Checked.Alike : Checked α → Checked α → Prop where
  | accepted (value : α) : Alike (.accepted value) (.accepted value)
  | rejected {issues others : List Issue} (h : issues.map Issue.gist = others.map Issue.gist) :
    Alike (.rejected issues) (.rejected others)

namespace Checked

variable {check other : Checked α}

theorem Alike.refl (check : Checked α) : check.Alike check := by
  cases check with
  | accepted value => exact .accepted value
  | rejected issues => exact .rejected rfl

theorem Alike.beside {first first' : Checked (α → β)} {second second' : Checked α}
    (h : first.Alike first') (h' : second.Alike second') :
    (Checked.beside first second).Alike (Checked.beside first' second') := by
  cases h with
  | accepted f =>
    cases h' with
    | accepted value => exact .accepted (f value)
    | rejected hissues => exact .rejected hissues
  | rejected hissues =>
    cases h' with
    | accepted value => exact .rejected hissues
    | rejected hmore => exact .rejected (by rw [List.map_append, List.map_append, hissues, hmore])

theorem Alike.seq {first first' : Checked (α → β)} {second second' : Checked α}
    (h : first.Alike first') (h' : second.Alike second') :
    (first <*> second).Alike (first' <*> second') := h.beside h'

theorem Alike.map (f : α → β) (h : check.Alike other) :
    (Checked.map f check).Alike (Checked.map f other) := by
  cases h with
  | accepted value => exact .accepted (f value)
  | rejected hissues => exact .rejected hissues

theorem Alike.mapped (f : α → β) (h : check.Alike other) : (f <$> check).Alike (f <$> other) :=
  h.map f

theorem Alike.andThen {next next' : α → Checked β} (h : check.Alike other)
    (hnext : ∀ value, (next value).Alike (next' value)) :
    (check.andThen next).Alike (other.andThen next') := by
  cases h with
  | accepted value => exact hnext value
  | rejected hissues => exact .rejected hissues

theorem gist_under (step : Step) (issues : List Issue) :
    (issues.map (Issue.under step)).map Issue.gist =
      (issues.map Issue.gist).map fun gist => (step.camel :: gist.1, gist.2) := by
  rw [List.map_map, List.map_map]
  rfl

theorem Alike.under {step step' : Step} (hstep : step.camel = step'.camel)
    (h : check.Alike other) : (check.under step).Alike (other.under step') := by
  cases h with
  | accepted value => exact .accepted value
  | rejected hissues =>
    refine .rejected ?_
    rw [gist_under, gist_under, hissues, hstep]

theorem Alike.items {check : Json → Checked α} {item : Respelling}
    (hitem : ∀ input other, item input other → (check input).Alike (check other))
    {inputs others : List Json} (h : List.Forall₂ item inputs others) (start : Nat) :
    (Checked.items check start inputs).Alike (Checked.items check start others) := by
  induction h generalizing start with
  | nil => exact .accepted []
  | cons hhead _ ih =>
    exact (((hitem _ _ hhead).under rfl).map List.cons).beside (ih (start + 1))

end Checked

end Complaints

section Readers

variable {reader : Reader α} {item : Respelling}

/-- The reader says the same of whatever may be written in place of a value. -/
def Follows (reader : Reader α) (respelling : Respelling) : Prop :=
  ∀ origin input other, respelling input other → (reader origin input).Alike (reader origin other)

theorem follows_eq (reader : Reader α) : Follows reader Eq := by
  rintro origin input _ rfl
  exact .refl _

theorem follows_readList (h : Follows reader item) : Follows (readList reader) (Relisted item) := by
  intro origin input other hother
  cases hother with
  | same => exact .refl _
  | items hitems => exact .items (h origin) hitems 0

theorem follows_readFilledList (h : Follows reader item) :
    Follows (readFilledList reader) (Relisted item) := by
  intro origin input other hother
  refine (follows_readList h origin input other hother).andThen fun items => ?_
  cases items with
  | nil => exact .rejected rfl
  | cons first rest => exact .accepted _

theorem follows_readObject {form : Form} {title : String} {read : Fields → Checked α}
    (h : ∀ origin {entries others}, form.Entries entries others →
      (read ⟨origin, entries⟩).Alike (read ⟨origin, others⟩)) :
    Follows (readObject title read) form.Object := by
  intro origin input other hother
  cases hother with
  | same => exact .refl _
  | entries hentries => exact h origin hentries

end Readers

section Fields

variable {form : Form} {reader : Reader α} {name : Name} {respelling : Respelling}
  {entries others : Json.Entries}

theorem alike_found (hf : (name, respelling) ∈ form.fields) (h : Follows reader respelling)
    (origin : Origin) {entry other : String × Json}
    (hentry : Respelled (name, respelling) entry other) :
    ((reader origin entry.2).under (.key entry.1)).Alike
      ((reader origin other.2).under (.key other.1)) := by
  -- The issues stand under different keys, which are one in camel case.
  have hkey : Step.camel (.key entry.1) = Step.camel (.key other.1) := by
    rw [Step.camel, Step.camel, Form.camelCase_of_mem_spellings hf hentry.key,
      Form.camelCase_of_mem_spellings hf hentry.otherKey]
  refine Checked.Alike.under hkey ?_
  rcases hentry.value with hsame | hother
  · rw [hsame]
    exact .refl _
  · exact h origin _ _ hother

theorem alike_required (hf : (name, respelling) ∈ form.fields) (h : Follows reader respelling)
    (origin : Origin) (he : form.Entries entries others) :
    (required name reader ⟨origin, entries⟩).Alike (required name reader ⟨origin, others⟩) := by
  rcases he.find? hf with ⟨hnone, hnone'⟩ | ⟨entry, other, hfind, hfind', hentry⟩
  · simp only [required, hnone, hnone']
    exact .rejected rfl
  · rw [required_of_find hfind, required_of_find hfind']
    exact alike_found hf h origin hentry

theorem alike_optional (hf : (name, respelling) ∈ form.fields) (h : Follows reader respelling)
    (fallback : α) (origin : Origin) (he : form.Entries entries others) :
    (Checking.optional name reader fallback ⟨origin, entries⟩).Alike
      (Checking.optional name reader fallback ⟨origin, others⟩) := by
  rcases he.find? hf with ⟨hnone, hnone'⟩ | ⟨entry, other, hfind, hfind', hentry⟩
  · simp only [Checking.optional, hnone, hnone']
    exact .accepted fallback
  · rw [optional_of_find hfind, optional_of_find hfind']
    exact alike_found hf h origin hentry

end Fields

/-- The values, each under one of the names of its field. -/
def spelledEntries (spell : Name → String) (values : List (Name × Json)) : Json.Entries :=
  values.map fun value => (spell value.1, value.2)

/-- One of the two names of each field is chosen. -/
def Spells (spell : Name → String) : Prop := ∀ name, spell name ∈ name.spellings

theorem spells_outer : Spells Name.outer := fun _ => .head _

theorem spells_inner : Spells Name.inner := fun _ => .tail _ (.head _)

/-- Both values are of one field. -/
def Form.Value (form : Form) (value other : Name × Json) : Prop :=
  ∃ field ∈ form.fields, value.1 = field.1 ∧ other.1 = field.1 ∧ field.2 value.2 other.2

section Written

variable {form : Form} {field : Name × Respelling} {spell otherSpell : Name → String}
  {values others : List (Name × Json)}

theorem not_bothIn_spelled (hspell : Spells spell)
    (h : ∀ value ∈ values, ∃ field ∈ form.fields, value.1 = field.1) (hf : field ∈ form.fields) :
    ¬ field.1.BothIn (spelledEntries spell values) := by
  have hkey : ∀ key ∈ (spelledEntries spell values).map Prod.fst, key ∈ field.1.spellings →
      key = spell field.1 := by
    intro key hm hkey
    obtain ⟨_, hentry, rfl⟩ := List.mem_map.mp hm
    obtain ⟨value, hvalue, rfl⟩ := List.mem_map.mp hentry
    obtain ⟨found, hfound, hname⟩ := h value hvalue
    have hmem : spell value.1 ∈ found.1.spellings := hname ▸ hspell value.1
    obtain rfl := Form.eq_of_mem_spellings hf hfound hkey hmem
    exact congrArg spell hname
  rintro ⟨hne, houter, hinner⟩
  refine hne ?_
  rw [hkey _ houter (spells_outer _), ← hkey _ hinner (spells_inner _)]

theorem Form.named_of_values (h : List.Forall₂ form.Value values others) :
    (∀ value ∈ values, ∃ field ∈ form.fields, value.1 = field.1) ∧
      ∀ other ∈ others, ∃ field ∈ form.fields, other.1 = field.1 := by
  induction h with
  | nil => exact ⟨nofun, nofun⟩
  | cons hvalue _ ih =>
    obtain ⟨field, hf, hname, hname', _⟩ := hvalue
    rw [List.forall_mem_cons, List.forall_mem_cons]
    exact ⟨⟨⟨field, hf, hname⟩, ih.1⟩, ⟨field, hf, hname'⟩, ih.2⟩

theorem Form.object_spelled (hspell : Spells spell) (hother : Spells otherSpell)
    (h : List.Forall₂ form.Value values others) :
    form.Object (.object (spelledEntries spell values))
      (.object (spelledEntries otherSpell others)) := by
  obtain ⟨hvalues, hothers⟩ := Form.named_of_values h
  refine .entries ⟨?_, fun _ => not_bothIn_spelled hspell hvalues,
    fun _ => not_bothIn_spelled hother hothers⟩
  rw [spelledEntries, spelledEntries, List.forall₂_map_left_iff, List.forall₂_map_right_iff]
  refine h.imp fun value other hvalue => ?_
  obtain ⟨field, hf, hname, hname', hsame⟩ := hvalue
  exact .inr ⟨field, hf, hname ▸ hspell value.1, hname' ▸ hother other.1, .inr hsame⟩

end Written

end Checking

end Storyboard
