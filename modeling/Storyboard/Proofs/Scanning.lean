import Storyboard.Checking.Document
import Storyboard.Proofs.Printing
import Storyboard.Text.Encoding

/-!
# Values without blanks, scanned

What a plain value is written as is strict Json, unless it is nested too deep. The strict
reader sees the bytes of a text and not its characters: the bytes of a character of ASCII
are the character, and those of any other are no control characters, quotes or
backslashes, so nothing but a whole text can hold them.
-/

namespace Storyboard

/-- A written number is ASCII. -/
theorem Decimal.Numeral.Sound.ascii {numeral : Decimal.Numeral} (h : numeral.Sound) :
    ∀ c ∈ numeral.chars, c.toNat < 0x80 := by
  have hdigit {c : Char} (hc : c.isDigit = true) : c.toNat < 0x80 :=
    (Json.leads_of_digit hc).ascii
  intro c hm
  rw [Decimal.Numeral.chars, List.mem_append, List.mem_append] at hm
  rcases hm with hm | hm | hm
  · rcases h.whole with hzero | ⟨hall, _⟩
    · rw [hzero, List.mem_singleton] at hm
      rw [hm]
      decide
    · exact hdigit (hall c hm)
  · unfold Decimal.Numeral.dot at hm
    split at hm
    · cases hm
    · rcases List.mem_cons.mp hm with rfl | hm
      · decide
      · exact hdigit (h.fraction c hm)
  · unfold Decimal.Numeral.mark at hm
    split at hm
    · cases hm
    · next sign digits he =>
      obtain ⟨hsign, _, hall⟩ := h.exponent sign digits he
      rw [List.mem_cons, List.mem_append] at hm
      rcases hm with rfl | hm | hm
      · decide
      · rcases hsign with rfl | rfl | rfl
        · cases hm
        all_goals
          rw [List.mem_singleton.mp hm]
          decide
      · exact hdigit (hall c hm)

namespace Json

open Storyboard.Text (hexValue? isHighUnit isLowUnit utf8Bytes not_high_of_not_half
  not_low_of_not_half toNat_not_half)
open Decimal (Ends)

section Bytes

/-- The bytes of a character, one character for each. -/
def charBytes (c : Char) : List Char :=
  (String.utf8EncodeChar c).map fun byte => Char.ofNat byte.toNat

/-- The bytes of some characters, one character for each. -/
def bytesOf (chars : List Char) : List Char := chars.flatMap charBytes

theorem byteChars_eq (text : String) : byteChars text = bytesOf text.toList := by
  rw [byteChars, utf8Bytes, bytesOf, List.map_flatMap]
  rfl

theorem bytesOf_append (first second : List Char) :
    bytesOf (first ++ second) = bytesOf first ++ bytesOf second :=
  List.flatMap_append

theorem charBytes_ascii {c : Char} (h : c.toNat < 0x80) : charBytes c = [c] := by
  have hle : c.val.toNat ≤ 127 := Nat.le_of_lt_succ h
  have hbyte : (UInt8.ofNat c.val.toNat).toNat = c.toNat := by
    rw [UInt8.toNat_ofNat']
    exact Nat.mod_eq_of_lt (by omega)
  rw [charBytes, String.utf8EncodeChar, if_pos hle, List.map_singleton, hbyte, Char.ofNat_toNat]

theorem bytesOf_ascii {chars : List Char} (h : ∀ c ∈ chars, c.toNat < 0x80) :
    bytesOf chars = chars := by
  induction chars with
  | nil => rfl
  | cons c chars ih =>
    rw [List.forall_mem_cons] at h
    rw [bytesOf, List.flatMap_cons, charBytes_ascii h.1]
    exact congrArg (c :: ·) (ih h.2)

theorem bytesOf_cons_ascii {c : Char} (h : c.toNat < 0x80) (chars : List Char) :
    bytesOf (c :: chars) = c :: bytesOf chars := by
  rw [bytesOf, List.flatMap_cons, charBytes_ascii h]
  rfl

/-- The bytes of a character beyond ASCII lie beyond ASCII. -/
theorem le_of_mem_charBytes {c byte : Char} (h : ¬ c.toNat < 0x80) (hb : byte ∈ charBytes c) :
    0x80 ≤ byte.toNat := by
  have hlarge : ¬ c.val.toNat ≤ 127 := fun hle => h (Nat.lt_succ_of_le hle)
  have hbyte (n : ℕ) (hlow : 0x80 ≤ n) (hhigh : n < 0x100) :
      0x80 ≤ (Char.ofNat (UInt8.ofNat n).toNat).toNat := by
    rw [UInt8.toNat_ofNat', Nat.mod_eq_of_lt hhigh, Char.toNat_ofNat, if_pos (Or.inl (by omega))]
    exact hlow
  rw [charBytes, String.utf8EncodeChar, if_neg hlarge] at hb
  split at hb
  · simp only [List.map_cons, List.map_nil, List.mem_cons, List.not_mem_nil, or_false] at hb
    rcases hb with rfl | rfl <;> exact hbyte _ (by omega) (by omega)
  · split at hb <;>
    · simp only [List.map_cons, List.map_nil, List.mem_cons, List.not_mem_nil, or_false] at hb
      rcases hb with rfl | rfl | rfl | rfl <;> exact hbyte _ (by omega) (by omega)

end Bytes

section Text

/-- A character that stands for itself inside of a text. -/
def IsPlain (c : Char) : Prop := c ≠ '"' ∧ c ≠ '\\' ∧ ¬ c.toNat < 0x20

theorem isPlain_of_large {c : Char} (h : 0x80 ≤ c.toNat) : IsPlain c := by
  refine ⟨?_, ?_, by omega⟩ <;>
  · rintro rfl
    contradiction

theorem scanText_plain {bytes : List Char} (h : ∀ c ∈ bytes, IsPlain c) (steps : ℕ)
    (more : List Char) : scanText (steps + bytes.length) (bytes ++ more) = scanText steps more := by
  induction bytes with
  | nil => rfl
  | cons c bytes ih =>
    rw [List.forall_mem_cons] at h
    obtain ⟨hq, hb, hc⟩ := h.1
    rw [List.length_cons, ← Nat.add_assoc, List.cons_append, scanText, if_neg hq, if_neg hb,
      if_neg hc, ih h.2]

theorem scanUnit_hexDigits {unit : ℕ} (h : unit < 0x10000) (more : List Char) :
    scanUnit (Text.hexDigits 4 unit ++ more) = .ok (unit, more) := by
  have hdigit (n : ℕ) : hexValue? (Text.hexDigit (n % 16)) = some (n % 16) :=
    Text.hexValue?_hexDigit _ (Nat.mod_lt n (by decide))
  have hvalue : ((unit / 16 / 16 / 16 % 16 * 16 + unit / 16 / 16 % 16) * 16 +
      unit / 16 % 16) * 16 + unit % 16 = unit := by omega
  change scanUnit (Text.hexDigit (unit / 16 / 16 / 16 % 16) ::
    Text.hexDigit (unit / 16 / 16 % 16) :: Text.hexDigit (unit / 16 % 16) ::
    Text.hexDigit (unit % 16) :: more) = _
  simp [scanUnit, hdigit, hvalue]

theorem ascii_unitEscape (unit : ℕ) : ∀ c ∈ unitEscape unit, c.toNat < 0x80 := by
  have hdigit : ∀ d < 16, (Text.hexDigit d).toNat < 0x80 := by decide
  intro c hm
  rw [unitEscape, List.mem_cons, List.mem_cons] at hm
  rcases hm with rfl | rfl | hm
  · decide
  · decide
  · obtain ⟨d, hd, rfl⟩ := Text.mem_hexDigits hm
    exact hdigit d hd

/-- What a character is written as is passed over, a step for each byte at most. -/
theorem scanText_compactChar (c : Char) (steps : ℕ) (more : List Char)
    (h : (bytesOf (compactChar c)).length ≤ steps) :
    ∃ left, steps ≤ left + (bytesOf (compactChar c)).length ∧
      scanText steps (bytesOf (compactChar c) ++ more) = scanText left more := by
  cases hs : shortEscape? c with
  | some letter =>
    have hform : compactChar c = ['\\', letter] := by rw [compactChar, hs]
    have hletter : letter.toNat < 0x80 ∧ scanEscape (letter :: more) = .ok more := by
      unfold shortEscape? at hs
      split at hs <;>
        first
        | contradiction
        | (obtain rfl := Option.some.inj hs; exact ⟨by decide, rfl⟩)
    rw [hform, bytesOf_cons_ascii (by decide), bytesOf_cons_ascii hletter.1] at h ⊢
    obtain ⟨steps, rfl⟩ := Nat.exists_eq_succ_of_ne_zero (Nat.ne_zero_of_lt h)
    refine ⟨steps, Nat.add_le_add_left (Nat.succ_le_succ (Nat.zero_le _)) steps, ?_⟩
    change Except.bind (scanEscape (letter :: more)) (scanText steps) = _
    rw [hletter.2]
    rfl
  | none =>
    obtain ⟨hq, hb⟩ := shortEscape?_eq_none hs
    by_cases hc : c.toNat < 0x20
    · have hform : compactChar c = unitEscape c.toNat := by rw [compactChar, hs, if_pos hc]
      have hhigh : isHighUnit c.toNat = false := not_high_of_not_half (toNat_not_half c)
      have hlow : isLowUnit c.toNat = false := not_low_of_not_half (toNat_not_half c)
      have hescape : scanEscape ('u' :: (Text.hexDigits 4 c.toNat ++ more)) = .ok more := by
        rw [scanEscape, scanUnit_hexDigits (by omega)]
        change (if isHighUnit c.toNat then scanPartner more
          else if isLowUnit c.toNat then _ else Except.ok more) = _
        rw [hhigh, hlow]
        rfl
      rw [hform, bytesOf_ascii (ascii_unitEscape c.toNat)] at h ⊢
      obtain ⟨steps, rfl⟩ := Nat.exists_eq_succ_of_ne_zero (Nat.ne_zero_of_lt h)
      refine ⟨steps, Nat.add_le_add_left (Nat.succ_le_succ (Nat.zero_le _)) steps, ?_⟩
      change Except.bind (scanEscape ('u' :: (Text.hexDigits 4 c.toNat ++ more)))
        (scanText steps) = _
      rw [hescape]
      rfl
    · have hform : compactChar c = [c] := by rw [compactChar, hs, if_neg hc]
      have hplain : ∀ byte ∈ bytesOf [c], IsPlain byte := by
        intro byte hm
        rw [bytesOf, List.flatMap_singleton] at hm
        by_cases hascii : c.toNat < 0x80
        · rw [charBytes_ascii hascii, List.mem_singleton] at hm
          rw [hm]
          exact ⟨hq, hb, hc⟩
        · exact isPlain_of_large (le_of_mem_charBytes hascii hm)
      rw [hform] at h ⊢
      obtain ⟨left, rfl⟩ := Nat.exists_eq_add_of_le' h
      exact ⟨left, le_rfl, scanText_plain hplain left more⟩

theorem scanText_compactBody (text : List Char) (steps : ℕ) (rest : List Char)
    (h : (bytesOf (text.flatMap compactChar)).length < steps) :
    scanText steps (bytesOf (text.flatMap compactChar) ++ '"' :: rest) = .ok rest := by
  induction text generalizing steps with
  | nil =>
    obtain ⟨steps, rfl⟩ := Nat.exists_eq_succ_of_ne_zero (Nat.ne_zero_of_lt h)
    rfl
  | cons c text ih =>
    rw [List.flatMap_cons, bytesOf_append, List.length_append] at h
    obtain ⟨left, hleft, hscan⟩ := scanText_compactChar c steps
      (bytesOf (text.flatMap compactChar) ++ '"' :: rest) (by omega)
    rw [List.flatMap_cons, bytesOf_append, List.append_assoc, hscan]
    exact ih left (by omega)

/-- The bytes of a text between its quotes. -/
def bodyBytes (text : String) : List Char := bytesOf (compactBody text)

theorem scanQuoted_bodyBytes (text : String) (rest : List Char) :
    scanQuoted ('"' :: (bodyBytes text ++ '"' :: rest)) = .ok rest := by
  refine scanText_compactBody text.toList _ rest ?_
  change (bodyBytes text).length < ('"' :: (bodyBytes text ++ '"' :: rest)).length
  rw [List.length_cons, List.length_append]
  omega

theorem scanKey_bodyBytes (text : String) (rest : List Char) :
    scanKey ('"' :: (bodyBytes text ++ '"' :: ':' :: rest)) = .ok rest := by
  rw [scanKey, scanQuoted_bodyBytes]
  rfl

end Text

section Value

variable {layout : Decimal.Layout} {rest : List Char} {room : ℕ}

/-- The bytes of a value without blanks. -/
def valueBytes (layout : Decimal.Layout) (value : Json) : List Char :=
  bytesOf (compactChars layout value)

/-- The bytes of an entry without blanks. -/
def entryBytes (layout : Decimal.Layout) (entry : String × Json) : List Char :=
  '"' :: (bodyBytes entry.1 ++ '"' :: ':' :: valueBytes layout entry.2)

theorem bytesOf_closed {bracket : Char} (hb : bracket.toNat < 0x80) (pieces : List (List Char)) :
    bytesOf (closed bracket pieces) = closed bracket (pieces.map bytesOf) := by
  induction pieces with
  | nil => exact bytesOf_cons_ascii hb []
  | cons piece pieces ih =>
    rw [List.map_cons, closed_cons, closed_cons, bytesOf_append]
    congr 1
    cases pieces with
    | nil => exact bytesOf_cons_ascii hb []
    | cons next pieces =>
      rw [behind, bytesOf_cons_ascii (by decide), ih]
      rfl

theorem valueBytes_text (text : String) :
    valueBytes layout (.text text) = '"' :: (bodyBytes text ++ ['"']) := by
  rw [valueBytes, compactChars_text, bytesOf_cons_ascii (by decide), bytesOf_append]
  rfl

theorem valueBytes_list (items : List Json) :
    valueBytes layout (.list items) = '[' :: closed ']' (items.map (valueBytes layout)) := by
  rw [valueBytes, compactChars_list, bytesOf_cons_ascii (by decide), bytesOf_closed (by decide),
    List.map_map]
  rfl

theorem valueBytes_object (entries : Entries) :
    valueBytes layout (.object entries) =
      '\x7b' :: closed '\x7d' (entries.map (entryBytes layout)) := by
  have hentry (entry : String × Json) :
      bytesOf (entryChars layout entry) = entryBytes layout entry := by
    rw [entryChars, bytesOf_cons_ascii (by decide), bytesOf_append, bytesOf_cons_ascii (by decide),
      bytesOf_cons_ascii (by decide)]
    rfl
  rw [valueBytes, compactChars_object, bytesOf_cons_ascii (by decide), bytesOf_closed (by decide),
    List.map_map]
  simp only [Function.comp_def, hentry]

theorem exists_valueBytes (hpoint : layout.showsPoint = true) {value : Json}
    (h : Plain room value) : ∃ first more, valueBytes layout value = first :: more ∧ Leads first := by
  obtain ⟨first, more, hfirst, hlead⟩ := exists_compactChars hpoint h
  refine ⟨first, bytesOf more, ?_, hlead⟩
  rw [valueBytes, hfirst, bytesOf_cons_ascii hlead.ascii]

theorem nextToken_of_first {first : Char} (h : isGap first = false) (more : List Char) :
    nextToken (first :: more) = .ok (first :: more) := by
  rw [nextToken, skipGap_of_first h]

/-- The bytes of a value are passed over, whatever ends it, inside of so many lists and
objects. -/
def Scans (layout : Decimal.Layout) (level : ℕ) (value : Json) : Prop :=
  ∀ steps rest, (valueBytes layout value).length ≤ steps → Ends rest →
    scanValue steps level (valueBytes layout value ++ rest) = .ok rest

theorem scanItems_closed (hpoint : layout.showsPoint = true) {items : List Json} {level : ℕ}
    (hplain : ∀ item ∈ items, Plain room item)
    (hitems : ∀ item ∈ items, Scans layout (level + 1) item) (hne : items ≠ []) (steps : ℕ)
    (hsteps : (closed ']' (items.map (valueBytes layout))).length ≤ steps) :
    scanItems steps level (closed ']' (items.map (valueBytes layout)) ++ rest) = .ok rest := by
  induction items generalizing steps with
  | nil => contradiction
  | cons item items ih =>
    rw [List.forall_mem_cons] at hplain hitems
    rw [List.map_cons, closed_cons] at hsteps ⊢
    have hends := ends_behind (Or.inl rfl) (items.map (valueBytes layout)) rest
    cases items with
    | nil =>
      simp only [List.map_nil, behind, List.length_append, List.length_singleton] at hsteps hends ⊢
      obtain ⟨steps, rfl⟩ := Nat.exists_eq_succ_of_ne_zero (Nat.ne_zero_of_lt hsteps)
      rw [List.append_assoc, scanItems, hitems.1 steps _ (by omega) hends]
      rfl
    | cons next items =>
      simp only [List.map_cons, behind, List.length_append, List.length_cons] at hsteps hends ⊢
      obtain ⟨steps, rfl⟩ := Nat.exists_eq_succ_of_ne_zero (Nat.ne_zero_of_lt hsteps)
      have hmore := ih hplain.2 hitems.2 (List.cons_ne_nil _ _) steps (by rw [List.map_cons]; omega)
      obtain ⟨first, more, hfirst, hlead⟩ := exists_valueBytes hpoint (hplain.2 next (.head _))
      rw [List.append_assoc, scanItems, hitems.1 steps _ (by omega) hends]
      change Except.bind (nextToken
        (closed ']' ((next :: items).map (valueBytes layout)) ++ rest)) _ = _
      rw [List.map_cons, closed_cons, List.append_assoc, hfirst, List.cons_append] at hmore ⊢
      rw [nextToken_of_first hlead.solid]
      dsimp only [Except.bind]
      split
      · next heq => exact absurd (List.cons.inj heq).1 hlead.inside
      · exact hmore

theorem scanEntries_closed (hpoint : layout.showsPoint = true) {entries : Entries} {level : ℕ}
    (hplain : ∀ entry ∈ entries, Plain room entry.2)
    (hentries : ∀ entry ∈ entries, Scans layout (level + 1) entry.2) (steps : ℕ)
    (entry : String × Json) (hentry : Scans layout (level + 1) entry.2)
    (hsteps : (closed '\x7d' ((entry :: entries).map (entryBytes layout))).length ≤ steps) :
    scanEntries steps level (valueBytes layout entry.2 ++
      (behind '\x7d' (entries.map (entryBytes layout)) ++ rest)) = .ok rest := by
  induction entries generalizing steps entry with
  | nil =>
    rw [List.map_cons, closed_cons] at hsteps
    have hends := ends_behind (Or.inr rfl) [] rest
    simp only [List.map_nil, behind, entryBytes, List.length_append, List.length_cons,
      List.length_nil] at hsteps hends ⊢
    obtain ⟨steps, rfl⟩ := Nat.exists_eq_succ_of_ne_zero (Nat.ne_zero_of_lt hsteps)
    rw [scanEntries, hentry steps _ (by omega) hends]
    rfl
  | cons next entries ih =>
    rw [List.forall_mem_cons] at hplain hentries
    rw [List.map_cons, closed_cons] at hsteps
    have hends := ends_behind (Or.inr rfl) ((next :: entries).map (entryBytes layout)) rest
    have hlength : (entryBytes layout entry).length =
        (bodyBytes entry.1).length + (valueBytes layout entry.2).length + 3 := by
      simp only [entryBytes, List.length_append, List.length_cons]
      omega
    simp only [List.map_cons, behind, List.length_append, List.length_cons] at hsteps hends ⊢
    obtain ⟨steps, rfl⟩ := Nat.exists_eq_succ_of_ne_zero (Nat.ne_zero_of_lt hsteps)
    have hmore := ih hplain.2 hentries.2 steps next hentries.1 (by rw [List.map_cons]; omega)
    obtain ⟨first, more, hfirst, hlead⟩ := exists_valueBytes hpoint hplain.1
    rw [scanEntries, hentry steps _ (by omega) hends]
    change Except.bind (nextToken
      (closed '\x7d' ((next :: entries).map (entryBytes layout)) ++ rest)) _ = _
    rw [List.map_cons, closed_cons, entryBytes, List.append_assoc, List.cons_append,
      List.append_assoc, List.cons_append, List.cons_append, nextToken_of_first rfl]
    change Except.bind (scanKey _)
      (fun found => Except.bind (nextToken found) (scanEntries steps level)) = _
    rw [scanKey_bodyBytes]
    change Except.bind (nextToken _) (scanEntries steps level) = _
    rw [hfirst, List.cons_append] at hmore ⊢
    rw [nextToken_of_first hlead.solid]
    exact hmore

theorem checkDepth_ok {level : ℕ} (h : level + (room + 1) ≤ strictDepth) (text : List Char) :
    checkDepth level text = .ok text :=
  if_neg (by omega)

theorem ascii_float {x : Float} (hpoint : layout.showsPoint = true) (hx : x.isFinite = true) :
    ∀ c ∈ compactChars layout (.float x), c.toNat < 0x80 := by
  obtain ⟨negative, numeral, hsound, hchars, _⟩ := layout.exists_written hpoint hx
  intro c hm
  rw [compactChars_float hx, hchars, List.mem_append] at hm
  rcases hm with hm | hm
  · cases negative with
    | true =>
      rw [List.mem_singleton.mp hm]
      decide
    | false => contradiction
  · exact hsound.ascii c hm

/-- The bytes of a finite double are passed over. -/
theorem scanValue_float (hpoint : layout.showsPoint = true)
    (hroom : layout.exponentFrom < Decimal.maxDigits) {x : Float} (hx : x.isFinite = true)
    (hrest : Ends rest) (steps level : ℕ) :
    scanValue (steps + 1) level (valueBytes layout (.float x) ++ rest) = .ok rest := by
  obtain ⟨negative, numeral, hsound, hchars, _⟩ := layout.exists_written hpoint hx
  obtain ⟨first, more, hfirst, hdigit⟩ := numeral.exists_first hsound
  have hscan := @Decimal.scanScalar_write layout hpoint hroom x hx rest hrest
  rw [valueBytes, bytesOf_ascii (ascii_float hpoint hx), compactChars_float hx]
  rw [hchars, hfirst] at hscan ⊢
  cases negative with
  | true => exact hscan
  | false =>
    change scanValue (steps + 1) level (first :: (more ++ rest)) = _
    rw [scanValue]
    · exact hscan
    all_goals
      rintro other heq
      obtain ⟨rfl, _⟩ := List.cons.inj heq
      contradiction

theorem scanValue_bracket_eq (steps level : ℕ) (text : List Char) :
    scanValue (steps + 1) level ('[' :: text) =
      match skipGap text with
      | [] => breach .endInList []
      | ']' :: rest => .ok rest
      | rest => (checkDepth level rest).bind (scanItems steps level) := rfl

/-- The bytes of a plain value are passed over, if it is not too deep. -/
theorem Plain.scans (hpoint : layout.showsPoint = true)
    (hroom : layout.exponentFrom < Decimal.maxDigits) {value : Json} (h : Plain room value)
    (level : ℕ) (hlevel : level + room ≤ strictDepth) : Scans layout level value := by
  induction h generalizing level with
  | null room =>
    intro steps rest hsteps _
    have hname : bytesOf ['n', 'u', 'l', 'l'] = ['n', 'u', 'l', 'l'] := rfl
    rw [valueBytes, compactChars_null, hname] at hsteps ⊢
    obtain ⟨steps, rfl⟩ := Nat.exists_eq_succ_of_ne_zero (Nat.ne_zero_of_lt hsteps)
    rfl
  | bool room value =>
    intro steps rest hsteps _
    have htrue : bytesOf ['t', 'r', 'u', 'e'] = ['t', 'r', 'u', 'e'] := rfl
    have hfalse : bytesOf ['f', 'a', 'l', 's', 'e'] = ['f', 'a', 'l', 's', 'e'] := rfl
    rw [valueBytes, compactChars_bool, apply_ite bytesOf, htrue, hfalse] at hsteps ⊢
    cases value <;>
    · obtain ⟨steps, rfl⟩ := Nat.exists_eq_succ_of_ne_zero (Nat.ne_zero_of_lt hsteps)
      rfl
  | @float room x hx =>
    intro steps rest hsteps hrest
    obtain ⟨first, more, hfirst, _⟩ := exists_valueBytes hpoint (Plain.float room hx)
    rw [hfirst, List.length_cons] at hsteps
    obtain ⟨steps, rfl⟩ := Nat.exists_eq_succ_of_ne_zero (Nat.ne_zero_of_lt hsteps)
    exact scanValue_float hpoint hroom hx hrest steps level
  | text room value =>
    intro steps rest hsteps _
    rw [valueBytes_text, List.length_cons] at hsteps
    obtain ⟨steps, rfl⟩ := Nat.exists_eq_succ_of_ne_zero (Nat.ne_zero_of_lt hsteps)
    rw [valueBytes_text, List.cons_append, List.append_assoc, List.singleton_append, scanValue]
    exact scanQuoted_bodyBytes value rest
  | @list room items h ih =>
    intro steps rest hsteps _
    rw [valueBytes_list, List.length_cons] at hsteps
    obtain ⟨steps, rfl⟩ := Nat.exists_eq_succ_of_ne_zero (Nat.ne_zero_of_lt hsteps)
    rw [valueBytes_list, List.cons_append]
    cases items with
    | nil => rfl
    | cons item items =>
      have hscan := @scanItems_closed _ rest _ hpoint _ _ h
        (fun item hm => ih item hm (level + 1) (by omega)) (List.cons_ne_nil _ _) steps
        (Nat.le_of_succ_le_succ hsteps)
      obtain ⟨first, more, hfirst, hlead⟩ := exists_valueBytes hpoint (h item List.mem_cons_self)
      rw [List.map_cons, closed_cons, hfirst, List.cons_append, List.cons_append] at hscan ⊢
      rw [List.append_assoc] at hscan ⊢
      rw [scanValue_bracket_eq, skipGap_of_first hlead.solid]
      split
      · contradiction
      · next heq => exact absurd (List.cons.inj heq).1 hlead.inside
      · rw [checkDepth_ok hlevel]
        exact hscan
  | @object room entries hkeys hascii h ih =>
    intro steps rest hsteps _
    rw [valueBytes_object, List.length_cons] at hsteps
    obtain ⟨steps, rfl⟩ := Nat.exists_eq_succ_of_ne_zero (Nat.ne_zero_of_lt hsteps)
    rw [valueBytes_object, List.cons_append]
    cases entries with
    | nil => rfl
    | cons entry entries =>
      have hscan := @scanEntries_closed _ rest _ hpoint _ _
        (fun entry hm => h entry (List.mem_cons_of_mem _ hm))
        (fun entry hm => ih entry (List.mem_cons_of_mem _ hm) (level + 1) (by omega)) steps entry
        (ih entry List.mem_cons_self (level + 1) (by omega)) (Nat.le_of_succ_le_succ hsteps)
      obtain ⟨first, more, hfirst, hlead⟩ := exists_valueBytes hpoint (h entry List.mem_cons_self)
      rw [List.map_cons, closed_cons, entryBytes, List.append_assoc, List.cons_append,
        List.append_assoc, List.cons_append, List.cons_append]
      change Except.bind (scanKey _) (fun found => Except.bind (nextToken found)
        fun first => Except.bind (checkDepth level first) (scanEntries steps level)) = _
      rw [scanKey_bodyBytes]
      change Except.bind (nextToken _)
        (fun first => Except.bind (checkDepth level first) (scanEntries steps level)) = _
      rw [hfirst, List.cons_append] at hscan ⊢
      rw [nextToken_of_first hlead.solid]
      change Except.bind (checkDepth level _) (scanEntries steps level) = _
      rw [checkDepth_ok hlevel]
      exact hscan

/-- A plain value is written as strict Json. -/
theorem Plain.strictBreach?_compactIn (hpoint : layout.showsPoint = true)
    (hexponent : layout.exponentFrom < Decimal.maxDigits) {value : Json} (h : Plain room value)
    (hroom : room ≤ strictDepth) : strictBreach? (value.compactIn layout) = none := by
  obtain ⟨first, more, hfirst, hlead⟩ := exists_valueBytes hpoint h
  have hbytes : byteChars (value.compactIn layout) = first :: more := by
    rw [byteChars_eq]
    exact hfirst
  have hscan := h.scans hpoint hexponent 0 (by omega) (2 * (first :: more).length + 2) []
    (by rw [hfirst]; omega) (Or.inl rfl)
  rw [List.append_nil, hfirst] at hscan
  have hdocument : scanDocument (first :: more) = .ok () := by
    rw [scanDocument, nextToken_of_first hlead.solid]
    change Except.bind (scanValue (2 * (first :: more).length + 2) 0 (first :: more)) _ = _
    rw [hscan]
    rfl
  simp only [strictBreach?, hbytes, hdocument]

end Value

section Halves

open Storyboard.Text (hasHalf keepsHalf)

variable {layout : Decimal.Layout}

theorem keepsHalf_ascii {c : Char} (h : c.toNat < 0x80) : keepsHalf c = false := by
  rw [keepsHalf, Text.halfOf?_eq_none (by omega)]
  rfl

theorem mem_texts_list {items : List Json} {item : Json} (hm : item ∈ items) {text : String}
    (h : text ∈ item.texts) : text ∈ (Json.list items).texts := by
  rw [texts]
  induction items with
  | nil => cases hm
  | cons first rest ih =>
    rw [textsOfItems, List.mem_append]
    rcases List.mem_cons.mp hm with rfl | hm
    · exact Or.inl h
    · exact Or.inr (ih hm)

theorem mem_texts_object {entries : Entries} {entry : String × Json} (hm : entry ∈ entries)
    {text : String} (h : text ∈ entry.2.texts) : text ∈ (Json.object entries).texts := by
  rw [texts]
  induction entries with
  | nil => cases hm
  | cons first rest ih =>
    rw [textsOfEntries, List.mem_append]
    rcases List.mem_cons.mp hm with rfl | hm
    · exact Or.inl h
    · exact Or.inr (ih hm)

/-- Only a character that is written as it is can keep a half. -/
theorem keepsHalf_compactBody {text : String} (h : ∀ c ∈ text.toList, keepsHalf c = false) :
    ∀ c ∈ compactBody text, keepsHalf c = false := by
  intro c hm
  obtain ⟨written, hwritten, hc⟩ := List.mem_flatMap.mp hm
  unfold compactChar at hc
  split at hc
  · next letter hs =>
    refine keepsHalf_ascii ?_
    rcases List.mem_cons.mp hc with rfl | hc
    · decide
    · obtain rfl := List.mem_singleton.mp hc
      unfold shortEscape? at hs
      split at hs <;> first | contradiction | (obtain rfl := Option.some.inj hs; decide)
  · split at hc
    · exact keepsHalf_ascii (ascii_unitEscape _ c hc)
    · rw [List.mem_singleton.mp hc]
      exact h written hwritten

theorem keepsHalf_closed {bracket : Char} (hb : bracket.toNat < 0x80)
    {pieces : List (List Char)} (h : ∀ piece ∈ pieces, ∀ c ∈ piece, keepsHalf c = false) :
    ∀ c ∈ closed bracket pieces, keepsHalf c = false := by
  induction pieces with
  | nil =>
    intro c hm
    rw [List.mem_singleton.mp hm]
    exact keepsHalf_ascii hb
  | cons piece pieces ih =>
    rw [List.forall_mem_cons] at h
    intro c hm
    rw [closed_cons, List.mem_append] at hm
    rcases hm with hm | hm
    · exact h.1 c hm
    · cases pieces with
      | nil =>
        rw [List.mem_singleton.mp hm]
        exact keepsHalf_ascii hb
      | cons next pieces =>
        rcases List.mem_cons.mp hm with rfl | hm
        · exact keepsHalf_ascii (by decide)
        · exact ih h.2 c hm

/-- What a plain value is written as keeps no half, if none of its texts does. -/
theorem Plain.keepsHalf_compactChars (hpoint : layout.showsPoint = true) {value : Json} {room : ℕ}
    (h : Plain room value) (htexts : ∀ text ∈ value.texts, hasHalf text = false) :
    ∀ c ∈ compactChars layout value, keepsHalf c = false := by
  induction h with
  | null room =>
    have hascii : ∀ c ∈ ['n', 'u', 'l', 'l'], c.toNat < 0x80 := by simp
    rw [compactChars_null]
    exact fun c hm => keepsHalf_ascii (hascii c hm)
  | bool room value =>
    have hascii : ∀ c ∈ ['t', 'r', 'u', 'e', 'f', 'a', 'l', 's', 'e'], c.toNat < 0x80 := by simp
    rw [compactChars_bool]
    intro c hm
    refine keepsHalf_ascii (hascii c ?_)
    cases value with
    | true => exact List.mem_append_left ['f', 'a', 'l', 's', 'e'] hm
    | false => exact List.mem_append_right ['t', 'r', 'u', 'e'] hm
  | float room hx => exact fun c hm => keepsHalf_ascii (ascii_float hpoint hx c hm)
  | text room value =>
    have hvalue : ∀ c ∈ value.toList, keepsHalf c = false := by
      have hwhole := htexts value (by rw [texts]; exact List.mem_singleton_self value)
      simpa [hasHalf] using hwhole
    intro c hm
    rw [compactChars_text, List.mem_cons, List.mem_append, List.mem_singleton] at hm
    rcases hm with rfl | hm | rfl
    · exact keepsHalf_ascii (by decide)
    · exact keepsHalf_compactBody hvalue c hm
    · exact keepsHalf_ascii (by decide)
  | @list room items h ih =>
    have hpieces : ∀ piece ∈ items.map (compactChars layout), ∀ c ∈ piece, keepsHalf c = false := by
      intro piece hpiece
      obtain ⟨item, hitem, rfl⟩ := List.mem_map.mp hpiece
      exact ih item hitem fun text ht => htexts text (mem_texts_list hitem ht)
    intro c hm
    rw [compactChars_list, List.mem_cons] at hm
    rcases hm with rfl | hm
    · exact keepsHalf_ascii (by decide)
    · exact keepsHalf_closed (by decide) hpieces c hm
  | @object room entries hkeys hascii h ih =>
    have hpieces : ∀ piece ∈ entries.map (entryChars layout), ∀ c ∈ piece, keepsHalf c = false := by
      intro piece hpiece c hc
      obtain ⟨entry, hentry, rfl⟩ := List.mem_map.mp hpiece
      rw [entryChars, List.mem_cons, List.mem_append, List.mem_cons, List.mem_cons] at hc
      rcases hc with rfl | hc | rfl | rfl | hc
      · exact keepsHalf_ascii (by decide)
      · exact keepsHalf_compactBody (fun c hm => keepsHalf_ascii (hascii entry hentry c hm)) c hc
      · exact keepsHalf_ascii (by decide)
      · exact keepsHalf_ascii (by decide)
      · exact ih entry hentry (fun text ht => htexts text (mem_texts_object hentry ht)) c hc
    intro c hm
    rw [compactChars_object, List.mem_cons] at hm
    rcases hm with rfl | hm
    · exact keepsHalf_ascii (by decide)
    · exact keepsHalf_closed (by decide) hpieces c hm

/-- A record that is written without blanks is checked like the value it was written from. -/
theorem Plain.readDocument_compactIn (hpoint : layout.showsPoint = true)
    (hexponent : layout.exponentFrom < Decimal.maxDigits) {value : Json} {room : ℕ}
    (h : Plain room value) (hroom : room ≤ strictDepth)
    (htexts : ∀ text ∈ value.texts, hasHalf text = false) (reader : Checking.Reader α) :
    Checking.readDocument reader (value.compactIn layout) = reader .text value := by
  have hwhole : hasHalf (value.compactIn layout) = false := by
    rw [hasHalf, List.any_eq_false]
    intro c hm
    rw [h.keepsHalf_compactChars hpoint htexts c hm]
    decide
  have hread := @Plain.read_compactIn layout (strictDepth + 1) hpoint value
    (h.mono (Nat.le_succ_of_le hroom))
  rw [Checking.readDocument, Checking.ofText, hwhole, if_neg (by decide)]
  simp only [h.strictBreach?_compactIn hpoint hexponent hroom, strictRoom, hread]

end Halves

end Json

end Storyboard
