import Storyboard.Json.Strict
import Storyboard.Proofs.Shortest

/-!
# Written doubles

A double that is written in a layout that shows the point has a whole part, a fraction, and
perhaps an exponent. The three are told apart by reading, strictly or not, and they denote the
number that the digits denote; so the double is what is read.
-/

namespace Storyboard.Decimal

section Digits

/-- A run of digits, the first of which is no zero. -/
structure Leading (digits : List Char) : Prop where
  all : ∀ c ∈ digits, c.isDigit = true
  head : ∃ first rest, digits = first :: rest ∧ first ≠ '0'

theorem digitsValue_lt {digits : List Char} (h : ∀ c ∈ digits, c.isDigit = true) :
    digitsValue digits < 10 ^ digits.length := by
  induction digits with
  | nil => simp [digitsValue]
  | cons c rest ih =>
    rw [List.forall_mem_cons] at h
    have hrest := ih h.2
    have hc : digitsValue [c] ≤ 9 := by
      have hdigit : c.toNat ≤ '9'.toNat := by
        have hd := h.1
        simp only [Char.isDigit, Bool.and_eq_true, decide_eq_true_eq] at hd
        exact hd.2
      change 10 * 0 + Text.asciiDigitValue c ≤ 9
      rw [Text.asciiDigitValue, if_pos h.1]
      have hnine : '9'.toNat = 57 := rfl
      have hzero : '0'.toNat = 48 := rfl
      omega
    have hsplit : digitsValue (c :: rest) = digitsValue [c] * 10 ^ rest.length + digitsValue rest :=
      digitsValue_append [c] rest
    rw [hsplit, List.length_cons, pow_succ]
    nlinarith

theorem digitsValue_cons_zero (digits : List Char) :
    digitsValue ('0' :: digits) = digitsValue digits := by
  have hzero : digitsValue ['0'] = 0 := rfl
  have hsplit := digitsValue_append ['0'] digits
  rwa [hzero, Nat.zero_mul, Nat.zero_add] at hsplit

theorem leading_digitsOf {n : ℕ} (hn : 0 < n) : Leading (digitsOf n) := by
  refine ⟨fun _ => isDigit_digitsOf, ?_⟩
  cases hd : digitsOf n with
  | nil => exact absurd hd Nat.toDigits_ne_nil
  | cons first rest =>
    refine ⟨first, rest, rfl, fun hzero => ?_⟩
    have hvalue := digitsValue_digitsOf n
    have hlow := ten_pow_le hn
    rw [hd, hzero, digitsValue_cons_zero] at hvalue
    have hlt := digitsValue_lt fun c hc => isDigit_digitsOf (n := n) (hd ▸ List.mem_cons_of_mem first hc)
    rw [hd, List.length_cons, Nat.add_sub_cancel] at hlow
    omega

theorem Scientific.leading_ofScaled {n : ℕ} (hn : 0 < n) (shift : ℤ) :
    Leading (Scientific.ofScaled n shift).digits := by
  change Leading (dropTrailingZeros (digitsOf n))
  obtain ⟨count, hdigits⟩ := exists_zeros (digitsOf n)
  obtain ⟨hall, first, rest, hfirst, hne⟩ := leading_digitsOf hn
  cases hd : dropTrailingZeros (digitsOf n) with
  | nil =>
    have hvalue := digitsValue_digitsOf n
    rw [hdigits, hd, List.nil_append, digitsValue_zeros] at hvalue
    omega
  | cons head tail =>
    refine ⟨fun c hc => hall c ?_, head, tail, rfl, ?_⟩
    · rw [hdigits, hd]
      exact List.mem_append_left _ hc
    · rw [hdigits, hd, List.cons_append] at hfirst
      rwa [(List.cons.inj hfirst).1]

end Digits

/-- The parts of a written number. -/
structure Numeral where
  whole : List Char
  fraction : List Char
  /-- The sign and the digits after the mark. -/
  exponent : Option (List Char × List Char)

namespace Numeral

/-- The fraction with its point, if there is one. -/
def dot (numeral : Numeral) : List Char :=
  if numeral.fraction = [] then [] else '.' :: numeral.fraction

/-- The exponent with its mark, if there is one. -/
def mark (numeral : Numeral) : List Char :=
  match numeral.exponent with
  | none => []
  | some (sign, digits) => 'e' :: (sign ++ digits)

/-- The number as it is written, without its sign. -/
def chars (numeral : Numeral) : List Char := numeral.whole ++ (numeral.dot ++ numeral.mark)

/-- The power of ten after the mark. -/
def power (numeral : Numeral) : ℤ :=
  match numeral.exponent with
  | none => 0
  | some (sign, digits) => if sign = ['-'] then -(digitsValue digits : ℤ) else digitsValue digits

/-- The power of ten of the last digit. -/
def shift (numeral : Numeral) : ℤ := numeral.power - numeral.fraction.length

/-- All digits as one number. -/
def scaled (numeral : Numeral) : ℕ := digitsValue (numeral.whole ++ numeral.fraction)

/-- The parts are those of a number that is not a whole one by its looks. -/
structure Sound (numeral : Numeral) : Prop where
  whole : numeral.whole = ['0'] ∨ Leading numeral.whole
  fraction : ∀ c ∈ numeral.fraction, c.isDigit = true
  exponent : ∀ sign digits, numeral.exponent = some (sign, digits) →
    (sign = [] ∨ sign = ['-'] ∨ sign = ['+']) ∧ digits ≠ [] ∧ ∀ c ∈ digits, c.isDigit = true
  real : numeral.fraction ≠ [] ∨ numeral.exponent ≠ none

end Numeral

section Render

variable {layout : Layout} {number : Scientific}

theorem digitsValue_append_zeros (digits : List Char) (count : ℕ) :
    digitsValue (digits ++ List.replicate count '0') = digitsValue digits * 10 ^ count := by
  rw [digitsValue_append, digitsValue_zeros, List.length_replicate, Nat.add_zero]

theorem isDigit_of_mem_zeros {count : ℕ} {c : Char} (h : c ∈ List.replicate count '0') :
    c.isDigit = true := by
  rw [List.eq_of_mem_replicate h]
  rfl

/-- Digits with a point: the whole part and the fraction. -/
theorem exists_pointAfter {digits : List Char} (h : Leading digits) {whole : ℕ} (hw : 0 < whole)
    (showsPoint : Bool) :
    ∃ before fraction, Leading before ∧ (∀ c ∈ fraction, c.isDigit = true) ∧
      pointAfter whole showsPoint digits =
        before ++ (if fraction = [] then [] else '.' :: fraction) ∧
      (digitsValue (before ++ fraction) * 10 ^ (-(fraction.length : ℤ)) : ℚ) =
        digitsValue digits * 10 ^ ((whole : ℤ) - digits.length) ∧
      before.length = whole ∧ (showsPoint = true → fraction ≠ []) := by
  obtain ⟨hall, first, rest, hfirst, hne⟩ := h
  let before := digits.take whole ++ List.replicate (whole - digits.length) '0'
  have hbefore : Leading before := by
    refine ⟨fun c hc => ?_, first, rest.take (whole - 1) ++
      List.replicate (whole - digits.length) '0', ?_, hne⟩
    · rcases List.mem_append.mp hc with hc | hc
      · exact hall c (List.mem_of_mem_take hc)
      · exact isDigit_of_mem_zeros hc
    · obtain ⟨k, rfl⟩ : ∃ k, whole = k + 1 := ⟨whole - 1, by omega⟩
      change digits.take (k + 1) ++ _ = _
      rw [hfirst, List.take_succ_cons]
      rfl
  have hlength : before.length = whole := by
    change (digits.take whole ++ List.replicate (whole - digits.length) '0').length = whole
    rw [List.length_append, List.length_take, List.length_replicate]
    omega
  cases hdrop : digits.drop whole with
  | nil =>
    have hshort : digits.length ≤ whole := List.drop_eq_nil_iff.mp hdrop
    have htake : digits.take whole = digits := List.take_of_length_le hshort
    have hvalue : digitsValue before = digitsValue digits * 10 ^ (whole - digits.length) := by
      change digitsValue (digits.take whole ++ _) = _
      rw [htake, digitsValue_append_zeros]
    have hpower : (10 : ℚ) ^ ((whole : ℤ) - digits.length) = 10 ^ (whole - digits.length) := by
      rw [← Nat.cast_sub hshort, zpow_natCast]
    cases showsPoint with
    | true =>
      refine ⟨before, ['0'], hbefore, fun c hc => ?_, ?_, ?_, hlength, fun _ => by simp⟩
      · rw [List.mem_singleton.mp hc]
        rfl
      · rw [pointAfter, hdrop]
        rfl
      · have hzero : digitsValue (before ++ ['0']) = digitsValue before * 10 :=
          digitsValue_append_zeros before 1
        rw [hzero, hvalue, hpower]
        push_cast
        norm_num
        field_simp
    | false =>
      refine ⟨before, [], hbefore, fun c hc => by simp at hc, ?_, ?_, hlength, fun h => by simp at h⟩
      · rw [pointAfter, hdrop]
        rfl
      · rw [List.append_nil, hvalue, hpower]
        push_cast
        simp
  | cons c after =>
    have hlong : whole < digits.length := by
      by_contra hshort
      rw [List.drop_eq_nil_of_le (Nat.not_lt.mp hshort)] at hdrop
      contradiction
    have hnone : whole - digits.length = 0 := by omega
    have hsplit : before ++ (c :: after) = digits := by
      change (digits.take whole ++ List.replicate (whole - digits.length) '0') ++ (c :: after) = digits
      rw [hnone, List.replicate_zero, List.append_nil, ← hdrop, List.take_append_drop]
    have hafter : (c :: after).length = digits.length - whole := by rw [← hdrop, List.length_drop]
    refine ⟨before, c :: after, hbefore, fun d hd => hall d ?_, ?_, ?_, hlength, fun _ => by simp⟩
    · rw [← hsplit]
      exact List.mem_append_right _ hd
    · rw [pointAfter, hdrop]
      rfl
    · rw [hsplit, hafter, Nat.cast_sub hlong.le, neg_sub]

theorem Layout.exists_exponent (layout : Layout) (e : ℤ) :
    ∃ sign digits, layout.exponentText e = sign ++ digits ∧
      (sign = [] ∨ sign = ['-'] ∨ sign = ['+']) ∧ digits ≠ [] ∧ (∀ c ∈ digits, c.isDigit = true) ∧
      (if sign = ['-'] then -(digitsValue digits : ℤ) else digitsValue digits) = e := by
  have hne : digitsOf e.natAbs ≠ [] := Nat.toDigits_ne_nil
  have hvalue := digitsValue_digitsOf e.natAbs
  have hdigits : ∀ c ∈ digitsOf e.natAbs, c.isDigit = true := fun _ => isDigit_digitsOf
  -- With or without a zero before them the digits denote the same.
  have hpadded : ∃ digits, (if (digitsOf e.natAbs).length < 2 then '0' :: digitsOf e.natAbs
      else digitsOf e.natAbs) = digits ∧ digits ≠ [] ∧ (∀ c ∈ digits, c.isDigit = true) ∧
      digitsValue digits = e.natAbs := by
    refine ⟨_, rfl, ?_⟩
    split
    · refine ⟨List.cons_ne_nil _ _, List.forall_mem_cons.mpr ⟨rfl, hdigits⟩, ?_⟩
      rw [digitsValue_cons_zero, hvalue]
    · exact ⟨hne, hdigits, hvalue⟩
  obtain ⟨padded, hpad, hpne, hpdigits, hpvalue⟩ := hpadded
  rw [exponentText]
  by_cases hneg : e < 0
  · have hback : -(e.natAbs : ℤ) = e := by omega
    cases hp : layout.padsExponent with
    | true =>
      refine ⟨['-'], padded, ?_, Or.inr (Or.inl rfl), hpne, hpdigits, ?_⟩
      · rw [if_pos rfl, if_pos hneg, hpad]
        rfl
      · rw [if_pos rfl, hpvalue, hback]
    | false =>
      refine ⟨['-'], digitsOf e.natAbs, ?_, Or.inr (Or.inl rfl), hne, hdigits, ?_⟩
      · simp [hneg]
      · rw [if_pos rfl, hvalue, hback]
  · have hback : (e.natAbs : ℤ) = e := by omega
    cases hp : layout.padsExponent with
    | true =>
      refine ⟨['+'], padded, ?_, Or.inr (Or.inr rfl), hpne, hpdigits, ?_⟩
      · rw [if_pos rfl, if_neg hneg, hpad]
        rfl
      · rw [if_neg (by decide), hpvalue, hback]
    | false =>
      refine ⟨[], digitsOf e.natAbs, ?_, Or.inl rfl, hne, hdigits, ?_⟩
      · simp [hneg]
      · rw [if_neg (by decide), hvalue, hback]

/-- A positive number in a layout that shows the point. -/
theorem Layout.exists_numeral (hpoint : layout.showsPoint = true) (h : Leading number.digits) :
    ∃ numeral : Numeral, numeral.Sound ∧ layout.render number = numeral.chars ∧
      (numeral.scaled * 10 ^ numeral.shift : ℚ) = number.value ∧
      (numeral.whole.length : ℤ) ≤ max 1 layout.exponentFrom := by
  rw [render]
  split
  · next hpositional =>
    cases he : number.exponent with
    | ofNat e =>
      obtain ⟨before, fraction, hbefore, hfraction, hchars, hvalue, hlength, hsome⟩ :=
        @exists_pointAfter _ h (e + 1) (Nat.succ_pos e) layout.showsPoint
      refine ⟨⟨before, fraction, none⟩, ⟨Or.inr hbefore, hfraction, by simp, Or.inl (hsome hpoint)⟩,
        ?_, ?_, ?_⟩
      · dsimp only
        rw [hchars, Numeral.chars, Numeral.mark, List.append_nil]
        rfl
      · rw [Numeral.scaled, Numeral.shift, Numeral.power, Scientific.value, he]
        dsimp only
        rw [zero_sub, hvalue]
        push_cast
        rfl
      · have hle : number.exponent < layout.exponentFrom := hpositional.2
        rw [he, Int.ofNat_eq_natCast] at hle
        rw [hlength]
        push_cast
        omega
    | negSucc e =>
      refine ⟨⟨['0'], List.replicate e '0' ++ number.digits, none⟩, ⟨Or.inl rfl, ?_, by simp, ?_⟩,
        ?_, ?_, le_max_left _ _⟩
      · intro c hc
        rcases List.mem_append.mp hc with hc | hc
        · exact isDigit_of_mem_zeros hc
        · exact h.all c hc
      · obtain ⟨first, rest, hfirst, _⟩ := h.head
        left
        simp [hfirst]
      · obtain ⟨first, rest, hfirst, _⟩ := h.head
        simp [Numeral.chars, Numeral.dot, Numeral.mark, hfirst]
      · have hzeros : digitsValue (['0'] ++ (List.replicate e '0' ++ number.digits)) =
            digitsValue number.digits := by
          change digitsValue ('0' :: (List.replicate e '0' ++ number.digits)) = _
          rw [digitsValue_cons_zero, digitsValue_append, digitsValue_zeros, Nat.zero_mul,
            Nat.zero_add]
        rw [Numeral.scaled, Numeral.shift, Numeral.power, Scientific.value, he]
        dsimp only
        rw [hzeros, List.length_append, List.length_replicate, Int.negSucc_eq]
        congr 2
        push_cast
        ring
  · obtain ⟨before, fraction, hbefore, hfraction, hchars, hvalue, hlength, _⟩ :=
      exists_pointAfter h one_pos layout.pointsExponent
    obtain ⟨sign, digits, htext, hsign, hdigits, hall, hpower⟩ := layout.exists_exponent number.exponent
    refine ⟨⟨before, fraction, some (sign, digits)⟩, ⟨Or.inr hbefore, hfraction, ?_, Or.inr (by simp)⟩,
      ?_, ?_, ?_⟩
    · intro sign' digits' hsome
      obtain ⟨rfl, rfl⟩ := Prod.mk.inj (Option.some.inj hsome)
      exact ⟨hsign, hdigits, hall⟩
    · rw [hchars, htext, List.append_assoc]
      rfl
    · rw [Numeral.scaled, Numeral.shift, Numeral.power, Scientific.value]
      dsimp only
      rw [hpower, sub_eq_add_neg, add_comm number.exponent (-(fraction.length : ℤ)),
        zpow_add₀ (by norm_num), ← mul_assoc, hvalue, mul_assoc, ← zpow_add₀ (by norm_num)]
      congr 2
      push_cast
      ring
    · rw [hlength]
      exact le_max_left _ _

end Render

section Read

open Json (Reading readSize readNumber wholeDigits fractionDigits exponentAt?)

/-- What may stand after a value: nothing, a comma, or a closing bracket. -/
def Ends (rest : List Char) : Prop :=
  rest = [] ∨ ∃ c more, rest = c :: more ∧ (c = ',' ∨ c = ']' ∨ c = '\x7d')

/-- No digit stands at the head. -/
def NoDigit (rest : List Char) : Prop := ∀ c more, rest = c :: more → c.isDigit = false

theorem Ends.noDigit {rest : List Char} (h : Ends rest) : NoDigit rest := by
  rintro c more rfl
  rcases h with h | ⟨c', more', h, rfl | rfl | rfl⟩
  · contradiction
  all_goals
    rw [(List.cons.inj h).1]
    rfl

theorem takeWhile_digits {digits rest : List Char} (h : ∀ c ∈ digits, c.isDigit = true)
    (hrest : NoDigit rest) : (digits ++ rest).takeWhile Char.isDigit = digits := by
  rw [List.takeWhile_append_of_pos h]
  cases rest with
  | nil => simp
  | cons c more => simp [hrest c more rfl]

namespace Numeral

variable {numeral : Numeral} {rest : List Char}

/-- A written number begins with a digit. -/
theorem exists_first (numeral : Numeral) (h : numeral.Sound) :
    ∃ first more, numeral.chars = first :: more ∧ first.isDigit = true := by
  rcases h.whole with hzero | ⟨hall, first, more, hfirst, _⟩
  · exact ⟨'0', _, by rw [chars, hzero]; rfl, rfl⟩
  · refine ⟨first, _, by rw [chars, hfirst]; rfl, hall first ?_⟩
    rw [hfirst]
    exact List.mem_cons_self

theorem dot_mark_ne_nil (h : numeral.Sound) (rest : List Char) :
    numeral.dot ++ numeral.mark ++ rest ≠ [] := by
  intro hnil
  obtain ⟨hboth, _⟩ := List.append_eq_nil_iff.mp hnil
  obtain ⟨hdot, hmark⟩ := List.append_eq_nil_iff.mp hboth
  by_cases hfraction : numeral.fraction = []
  · obtain ⟨exponent, he⟩ :=
      Option.ne_none_iff_exists'.mp (h.real.resolve_left (not_not.mpr hfraction))
    simp [mark, he] at hmark
  · simp [dot, hfraction] at hdot

theorem noDigit_dot_mark (h : numeral.Sound) (rest : List Char) :
    NoDigit (numeral.dot ++ numeral.mark ++ rest) := by
  rintro c more hc
  unfold dot mark at hc
  split at hc
  · next hfraction =>
    cases he : numeral.exponent with
    | none => exact absurd he (h.real.resolve_left (not_not.mpr hfraction))
    | some exponent =>
      rw [he] at hc
      rw [← (List.cons.inj hc).1]
      rfl
  · rw [← (List.cons.inj hc).1]
    rfl

theorem noDigit_mark (numeral : Numeral) {rest : List Char} (hrest : Ends rest) : NoDigit (numeral.mark ++ rest) := by
  unfold mark
  cases numeral.exponent with
  | none => exact hrest.noDigit
  | some exponent =>
    rintro c more hc
    rw [← (List.cons.inj hc).1]
    rfl

theorem wholeDigits_chars (h : numeral.Sound) (rest : List Char) :
    wholeDigits (numeral.chars ++ rest) = numeral.whole := by
  have hchars : numeral.chars ++ rest = numeral.whole ++ (numeral.dot ++ numeral.mark ++ rest) := by
    simp only [chars, List.append_assoc]
  rw [hchars]
  rcases h.whole with hzero | ⟨hall, first, more, hfirst, hne⟩
  · rw [hzero]
    rfl
  · have htake := takeWhile_digits hall (noDigit_dot_mark h rest)
    rw [hfirst] at htake ⊢
    rw [List.cons_append, wholeDigits]
    · exact htake
    · rintro other heq
      exact hne (List.cons.inj heq).1

theorem fractionDigits_dot (h : numeral.Sound) {rest : List Char} (hrest : Ends rest) :
    fractionDigits (numeral.dot ++ numeral.mark ++ rest) = numeral.fraction := by
  have htail := numeral.noDigit_mark hrest
  unfold dot
  split
  · next hfraction =>
    rw [hfraction, List.nil_append]
    unfold mark
    split
    · rcases hrest with rfl | ⟨c, more, rfl, rfl | rfl | rfl⟩ <;> rfl
    · rfl
  · rw [List.append_assoc, List.cons_append, fractionDigits]
    exact takeWhile_digits h.fraction htail

theorem drop_dot (numeral : Numeral) (rest : List Char) :
    (numeral.dot ++ numeral.mark ++ rest).drop
      (if numeral.fraction.isEmpty then 0 else numeral.fraction.length + 1) =
      numeral.mark ++ rest := by
  unfold dot
  cases hf : numeral.fraction with
  | nil => simp
  | cons c more =>
    rw [if_neg (List.cons_ne_nil c more), List.append_assoc]
    exact @List.drop_left _ ('.' :: c :: more) _

theorem exponentAt?_ends {rest : List Char} (h : Ends rest) : exponentAt? rest = none := by
  rcases h with rfl | ⟨c, more, rfl, rfl | rfl | rfl⟩ <;> rfl

theorem exponentAt?_mark (h : numeral.Sound) {sign digits rest : List Char}
    (he : numeral.exponent = some (sign, digits)) (hrest : Ends rest) :
    exponentAt? (numeral.mark ++ rest) = some (numeral.power, numeral.mark.length) := by
  obtain ⟨hsign, hne, hall⟩ := h.exponent sign digits he
  have htake := takeWhile_digits hall hrest.noDigit
  have hsplit : splitSign (sign ++ digits ++ rest) = (decide (sign = ['-']), digits ++ rest) := by
    rcases hsign with rfl | rfl | rfl
    · cases digits with
      | nil => contradiction
      | cons c more =>
        have hc := hall c List.mem_cons_self
        change splitSign (c :: (more ++ rest)) = (false, c :: (more ++ rest))
        unfold splitSign
        split
        · next heq =>
          rw [(List.cons.inj heq).1] at hc
          contradiction
        · next heq =>
          rw [(List.cons.inj heq).1] at hc
          contradiction
        · rfl
    · rfl
    · rfl
  have hlength : (sign ++ digits ++ rest).length - (digits ++ rest).length = sign.length := by
    simp only [List.length_append]
    omega
  have hmark : numeral.mark = 'e' :: (sign ++ digits) := by rw [mark, he]
  have hempty : digits.isEmpty = false := by simpa using hne
  rw [hmark, List.cons_append, exponentAt?, if_pos (by decide), hsplit]
  dsimp only
  rw [htake, hempty, hlength, power, he]
  have hcount : 1 + sign.length + digits.length = ('e' :: (sign ++ digits)).length := by
    simp only [List.length_cons, List.length_append]
    omega
  rw [hcount]
  by_cases hneg : sign = ['-'] <;> simp [hneg]

/-- A written double is read as the double of its digits. -/
theorem readSize_chars (h : numeral.Sound) {rest : List Char} (hrest : Ends rest) (negative : Bool)
    (start : List Char) :
    readSize negative start (numeral.chars ++ rest) =
      .ok (.float (if negative then -doubleOfDecimal numeral.scaled numeral.shift
        else doubleOfDecimal numeral.scaled numeral.shift), rest) := by
  have hwhole := wholeDigits_chars h rest
  have hdrop : (numeral.chars ++ rest).drop numeral.whole.length =
      numeral.dot ++ numeral.mark ++ rest := by
    rw [chars, List.append_assoc]
    exact List.drop_left
  have hne : numeral.whole.isEmpty = false := by
    rcases h.whole with hzero | ⟨_, first, more, hfirst, _⟩
    · rw [hzero]
      rfl
    · rw [hfirst]
      rfl
  rw [readSize]
  dsimp only
  rw [hwhole, hne, hdrop, fractionDigits_dot h hrest, drop_dot]
  cases he : numeral.exponent with
  | none =>
    have hmark : numeral.mark = [] := by rw [mark, he]
    have hfraction : numeral.fraction.isEmpty = false := by
      simpa using h.real.resolve_right (not_not.mpr he)
    rw [hmark, List.nil_append, exponentAt?_ends hrest]
    simp only [hfraction, shift, power, he, scaled]
    rfl
  | some exponent =>
    obtain ⟨sign, digits⟩ := exponent
    rw [exponentAt?_mark h he hrest]
    simp only [List.drop_left]
    rfl

end Numeral

/-- A double with a sign. -/
def signedDouble (negative : Bool) (size : Float) : Float := if negative then -size else size

/-- The sign of a written number. -/
def signChars (negative : Bool) : List Char := if negative then ['-'] else []

open Float.Model Float.Model.UnpackedFloat in
theorem signedDouble_pack {m : ℕ} {e : ℤ} (hc : Canonical m e) (hmax : e ≤ 971) (sign : Sign) :
    signedDouble (isNegativeSign sign) (.ofModel (.pack (.finite .positive m e hc.pos))) =
      .ofModel (.pack (.finite sign m e hc.pos)) := by
  cases sign with
  | positive => rfl
  | negative =>
    change Float.ofModel (.pack (Float.Model.pack (.finite .positive m e hc.pos)).unpack.neg) = _
    rw [unpack_pack hc hmax]
    rfl

open Float.Model.UnpackedFloat in
theorem signedDouble_zero (sign : Sign) :
    signedDouble (isNegativeSign sign) (doubleOfDecimal 0 (-1)) = .ofModel (.pack (.zero sign)) := by
  have hbits : (signedDouble (isNegativeSign sign) (doubleOfDecimal 0 (-1))).toModel.toBits =
      (Float.Model.pack (.zero sign)).toBits := by
    cases sign <;> decide +kernel
  generalize signedDouble (isNegativeSign sign) (doubleOfDecimal 0 (-1)) = x at hbits
  obtain ⟨⟨bits, hvalid⟩⟩ := x
  subst hbits
  rfl

/-- A finite double is written with a sign and a number that denotes its size. -/
theorem Layout.exists_written {layout : Layout} (hpoint : layout.showsPoint = true) {x : Float}
    (hx : x.isFinite = true) :
    ∃ negative, ∃ numeral : Numeral, numeral.Sound ∧
      (layout.write shortestDigits x).toList = signChars negative ++ numeral.chars ∧
      x = signedDouble negative (doubleOfDecimal numeral.scaled numeral.shift) ∧
      (numeral.whole.length : ℤ) ≤ max 1 layout.exponentFrom := by
  have hunpack := eq_pack_unpack x
  have hfinite : x.toModel.unpack.isFinite = true := hx
  rw [write, Exact.ofFloat]
  cases hu : x.toModel.unpack with
  | notANumber => simp [hu, Float.Model.UnpackedFloat.isFinite] at hfinite
  | infinity sign => simp [hu, Float.Model.UnpackedFloat.isFinite] at hfinite
  | zero sign =>
    rw [hu] at hunpack
    have hdigit : ∀ c ∈ ['0'], c.isDigit = true := fun c hc => by
      rw [List.mem_singleton.mp hc]
      rfl
    have hscaled : (Numeral.mk ['0'] ['0'] none).scaled = 0 := rfl
    have hshift : (Numeral.mk ['0'] ['0'] none).shift = -1 := rfl
    refine ⟨isNegativeSign sign, ⟨['0'], ['0'], none⟩,
      ⟨Or.inl rfl, hdigit, by simp, Or.inl (by simp)⟩, ?_, ?_, le_max_left _ _⟩
    · dsimp only
      rw [String.toList_ofList, hpoint, if_pos rfl, if_pos rfl]
      cases sign <;> rfl
    · rw [hscaled, hshift, signedDouble_zero]
      exact hunpack
  | finite sign m e hm =>
    obtain ⟨hc, hmax⟩ := canonical_of_unpack hu
    rw [hu] at hunpack
    obtain ⟨n, shift, hn, hdigits, hwithin⟩ := exists_shortestDigits hc
    have hleading : Leading (shortestDigits m e).digits := by
      rw [hdigits]
      exact Scientific.leading_ofScaled hn shift
    obtain ⟨numeral, hsound, hrender, hvalue, hlength⟩ := layout.exists_numeral hpoint hleading
    rw [hdigits, Scientific.value_ofScaled] at hvalue
    rw [← hvalue] at hwithin
    refine ⟨isNegativeSign sign, numeral, hsound, ?_, ?_, hlength⟩
    · dsimp only
      rw [String.toList_ofList, if_neg hm.ne', hrender]
      cases sign <;> rfl
    · rw [doubleOfDecimal_of_within hc hmax hwithin, signedDouble_pack hc hmax]
      exact hunpack

/-- A finite double is read as it was written. -/
theorem readNumber_write {layout : Layout} (hpoint : layout.showsPoint = true) {x : Float}
    (hx : x.isFinite = true) {rest : List Char} (hrest : Ends rest) :
    readNumber ((layout.write shortestDigits x).toList ++ rest) = .ok (.float x, rest) := by
  obtain ⟨negative, numeral, hsound, hchars, hvalue, _⟩ := layout.exists_written hpoint hx
  rw [hchars, List.append_assoc]
  have hread (start : List Char) := numeral.readSize_chars hsound hrest negative start
  cases negative with
  | true =>
    change readSize true ('-' :: (numeral.chars ++ rest)) (numeral.chars ++ rest) = _
    rw [hread, hvalue]
    rfl
  | false =>
    obtain ⟨first, more, hfirst, hdigit⟩ := numeral.exists_first hsound
    have hne : first ≠ '-' := by
      rintro rfl
      contradiction
    change readNumber (numeral.chars ++ rest) = _
    have hplain : readNumber (numeral.chars ++ rest) =
        readSize false (numeral.chars ++ rest) (numeral.chars ++ rest) := by
      rw [hfirst, List.cons_append, readNumber]
      rintro other heq
      exact hne (List.cons.inj heq).1
    rw [hplain, hread, hvalue]
    rfl

end Read

section Scan

open Json (scanDigits scanExponent scanExponent? scanFraction scanSize scanScalar)

theorem dropWhile_digits {digits rest : List Char} (h : ∀ c ∈ digits, c.isDigit = true)
    (hrest : NoDigit rest) : (digits ++ rest).dropWhile Char.isDigit = rest := by
  rw [List.dropWhile_append_of_pos h]
  cases rest with
  | nil => rfl
  | cons c more => simp [hrest c more rfl]

theorem scanDigits_digits {digits rest : List Char} (h : ∀ c ∈ digits, c.isDigit = true)
    (hne : digits ≠ []) (hrest : NoDigit rest) : scanDigits (digits ++ rest) = .ok rest := by
  cases digits with
  | nil => exact absurd rfl hne
  | cons c more =>
    rw [List.forall_mem_cons] at h
    rw [List.cons_append, scanDigits, if_pos h.1, dropWhile_digits h.2 hrest]

namespace Numeral

variable {numeral : Numeral} {rest : List Char}

theorem scanExponent?_mark (h : numeral.Sound) (hrest : Ends rest) :
    scanExponent? (numeral.mark ++ rest) = .ok rest := by
  unfold mark
  cases he : numeral.exponent with
  | none => rcases hrest with rfl | ⟨c, more, rfl, rfl | rfl | rfl⟩ <;> rfl
  | some exponent =>
    obtain ⟨sign, digits⟩ := exponent
    obtain ⟨hsign, hne, hall⟩ := h.exponent sign digits he
    have hscan := scanDigits_digits hall hne hrest.noDigit
    change scanExponent (sign ++ digits ++ rest) = .ok rest
    rcases hsign with rfl | rfl | rfl
    · cases digits with
      | nil => contradiction
      | cons c more =>
        have hc := hall c List.mem_cons_self
        change scanExponent (c :: (more ++ rest)) = .ok rest
        rw [scanExponent]
        · exact hscan
        all_goals
          rintro other heq
          rw [(List.cons.inj heq).1] at hc
          contradiction
    · exact hscan
    · exact hscan

theorem scanFraction_dot (h : numeral.Sound) (hrest : Ends rest) :
    scanFraction (numeral.dot ++ numeral.mark ++ rest) = .ok rest := by
  have hmark := scanExponent?_mark h hrest
  by_cases hfraction : numeral.fraction = []
  · have hsome := h.real.resolve_left (not_not.mpr hfraction)
    obtain ⟨⟨sign, digits⟩, he⟩ := Option.ne_none_iff_exists'.mp hsome
    rw [dot, if_pos hfraction, List.nil_append]
    rw [mark, he] at hmark ⊢
    exact hmark
  · have hdigits := scanDigits_digits h.fraction hfraction (numeral.noDigit_mark hrest)
    rw [dot, if_neg hfraction, List.append_assoc]
    change (do scanExponent? (← scanDigits (numeral.fraction ++ (numeral.mark ++ rest)))) = _
    rw [hdigits]
    exact hmark

/-- A written double is one in the strict sense. -/
theorem scanSize_chars (h : numeral.Sound) (hrest : Ends rest) {start : List Char}
    (hstart : start.length ≤ (numeral.chars ++ rest).length + 1)
    (hwhole : numeral.whole.length < maxDigits) :
    scanSize start (numeral.chars ++ rest) = .ok rest := by
  have htail := scanFraction_dot h hrest
  have hnone := noDigit_dot_mark h rest
  have hchars : numeral.chars ++ rest = numeral.whole ++ (numeral.dot ++ numeral.mark ++ rest) := by
    simp only [chars, List.append_assoc]
  rw [hchars] at hstart ⊢
  have hsome := dot_mark_ne_nil h rest
  generalize numeral.dot ++ numeral.mark ++ rest = tail at *
  rcases h.whole with hzero | ⟨hall, first, more, hfirst, hne⟩
  · rw [hzero]
    cases tail with
    | nil => exact absurd rfl hsome
    | cons c more =>
      change (if c.isDigit then _ else scanFraction (c :: more)) = _
      rw [hnone c more rfl]
      exact htail
  · rw [hfirst] at hall hwhole hstart ⊢
    rw [List.forall_mem_cons] at hall
    have hshort : start.length - tail.length ≤ maxDigits := by
      simp only [List.length_append, List.length_cons] at hstart hwhole
      omega
    rw [List.cons_append, scanSize]
    · rw [if_pos hall.1]
      dsimp only
      rw [dropWhile_digits hall.2 hnone, if_neg (Nat.not_lt.mpr hshort)]
      exact htail
    · rintro _ _ rfl
      exact absurd rfl hne
    · rintro rfl
      exact absurd hall.1 (by decide)

end Numeral

/-- A finite double is a scalar in the strict sense, as it was written. -/
theorem scanScalar_write {layout : Layout} (hpoint : layout.showsPoint = true)
    (hroom : layout.exponentFrom < maxDigits) {x : Float} (hx : x.isFinite = true)
    {rest : List Char} (hrest : Ends rest) :
    scanScalar ((layout.write shortestDigits x).toList ++ rest) = .ok rest := by
  obtain ⟨negative, numeral, hsound, hchars, _, hlength⟩ := layout.exists_written hpoint hx
  have hwhole : numeral.whole.length < maxDigits := by
    have hone : (1 : ℤ) < maxDigits := by decide
    omega
  have hscan (start : List Char) (hstart) :=
    @Numeral.scanSize_chars _ _ hsound hrest start hstart hwhole
  rw [hchars, List.append_assoc]
  cases negative with
  | true =>
    change scanSize ('-' :: (numeral.chars ++ rest)) (numeral.chars ++ rest) = _
    exact hscan _ le_rfl
  | false =>
    obtain ⟨first, more, hfirst, hdigit⟩ := numeral.exists_first hsound
    change scanScalar (numeral.chars ++ rest) = _
    have hplain : scanScalar (numeral.chars ++ rest) =
        scanSize (numeral.chars ++ rest) (numeral.chars ++ rest) := by
      rw [hfirst, List.cons_append, scanScalar]
      · rw [hdigit]
        rfl
      all_goals
        rintro rfl
        exact absurd hdigit (by decide)
    rw [hplain]
    exact hscan _ (Nat.le_succ _)

end Scan

end Storyboard.Decimal
