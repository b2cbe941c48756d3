import Storyboard.Decimal.Shortest
import Storyboard.Proofs.Rounding

/-!
# The shortest digits

The digits that a double is written with denote a number from its interval. A neighbour of the
double that is tried is kept only if it lies in the interval; with seventeen digits the nearest
one always does, since the grid is then finer than the doubles are.
-/

namespace Storyboard.Decimal

open Storyboard.Text (asciiDigitValue)

section Digits

theorem foldl_digits (digits : List Char) (start : ℕ) :
    digits.foldl (fun value c => 10 * value + asciiDigitValue c) start =
      start * 10 ^ digits.length + digitsValue digits := by
  induction digits generalizing start with
  | nil => simp [digitsValue]
  | cons c rest ih =>
    rw [digitsValue, List.foldl_cons, List.foldl_cons, ih, ih (10 * 0 + _), List.length_cons,
      Nat.pow_succ]
    ring

theorem digitsValue_append (first second : List Char) :
    digitsValue (first ++ second) = digitsValue first * 10 ^ second.length + digitsValue second := by
  rw [digitsValue, List.foldl_append, foldl_digits]
  rfl

theorem digitsValue_zeros (count : ℕ) : digitsValue (List.replicate count '0') = 0 := by
  induction count with
  | zero => rfl
  | succ count ih =>
    have hzero : digitsValue ['0'] = 0 := rfl
    rw [List.replicate_succ', digitsValue_append, ih, hzero, Nat.zero_mul]

theorem digitsValue_of_isDigit {digits : List Char} (h : ∀ c ∈ digits, c.isDigit = true) :
    digitsValue digits = Nat.ofDigitChars 10 digits 0 := by
  refine List.foldl_ext _ _ _ fun value c hc => ?_
  rw [asciiDigitValue, if_pos (h c hc)]

theorem digitsValue_digitsOf (n : ℕ) : digitsValue (digitsOf n) = n := by
  rw [digitsValue_of_isDigit fun _ => isDigit_digitsOf]
  exact Nat.ofDigitChars_toDigits (by decide) (by decide)

/-- The zeros at the end of digits are all that is dropped. -/
theorem exists_zeros (digits : List Char) :
    ∃ count, digits = dropTrailingZeros digits ++ List.replicate count '0' := by
  refine ⟨(digits.reverse.takeWhile (· == '0')).length, ?_⟩
  have hzeros : digits.reverse.takeWhile (· == '0') =
      List.replicate (digits.reverse.takeWhile (· == '0')).length '0' :=
    List.eq_replicate_iff.mpr ⟨rfl, fun c hc => by
      simpa using List.mem_takeWhile_imp hc⟩
  have hsplit : digits.reverse.takeWhile (· == '0') ++ digits.reverse.dropWhile (· == '0') =
      digits.reverse := List.takeWhile_append_dropWhile
  rw [hzeros] at hsplit
  have hback := congrArg List.reverse hsplit
  rw [List.reverse_append, List.reverse_replicate, List.reverse_reverse] at hback
  exact hback.symm

/-- The number that digits denote, of which the first stands for a power of ten. -/
def Scientific.value (number : Scientific) : ℚ :=
  digitsValue number.digits * 10 ^ (number.exponent + 1 - number.digits.length)

theorem Scientific.value_ofScaled (n : ℕ) (shift : ℤ) :
    (Scientific.ofScaled n shift).value = n * 10 ^ shift := by
  obtain ⟨count, hdigits⟩ := exists_zeros (digitsOf n)
  have hvalue := digitsValue_digitsOf n
  rw [hdigits, digitsValue_append, digitsValue_zeros, List.length_replicate, Nat.add_zero] at hvalue
  have hlength := congrArg List.length hdigits
  rw [List.length_append, List.length_replicate] at hlength
  have hexponent : ((digitsOf n).length : ℤ) - 1 + shift + 1 - (dropTrailingZeros (digitsOf n)).length =
      count + shift := by
    rw [hlength]
    push_cast
    ring
  have hcast : (n : ℚ) = digitsValue (dropTrailingZeros (digitsOf n)) * 10 ^ count := by
    exact_mod_cast hvalue.symm
  rw [value, ofScaled]
  dsimp only
  rw [hexponent, zpow_add₀ (by norm_num), zpow_natCast, ← mul_assoc, ← hcast]

end Digits

section Interval

variable {m : ℕ} {e : ℤ} {interval : RoundingInterval}

theorem binaryQuotient_eq (mantissa : ℕ) (exponent : ℤ) :
    ((binaryQuotient mantissa exponent).1 / (binaryQuotient mantissa exponent).2 : ℚ) =
      mantissa * 2 ^ exponent := by
  cases exponent with
  | ofNat e => simp [binaryQuotient]
  | negSucc e => simp [binaryQuotient, zpow_negSucc, div_eq_mul_inv]

/-- The interval around a double, as it lies on a grid of decimals. -/
structure RoundingInterval.Spans (interval : RoundingInterval) (m : ℕ) (e shift : ℤ) : Prop where
  pos : 0 < interval.denominator
  low : (interval.low / interval.denominator : ℚ) =
    (m - (if m = leastNormalMantissa ∧ leastExponent < e then 1 / 4 else 1 / 2)) * 2 ^ e / 10 ^ shift
  value : (interval.value / interval.denominator : ℚ) = m * 2 ^ e / 10 ^ shift
  high : (interval.high / interval.denominator : ℚ) = (m + 1 / 2) * 2 ^ e / 10 ^ shift
  closed : interval.closed = decide (m % 2 = 0)

theorem RoundingInterval.of_spans (hm : 0 < m) (e : ℤ) :
    (RoundingInterval.of m e).Spans m e 0 := by
  have hpos := binaryQuotient_pos 1 (e - 2)
  have hquarter := binaryQuotient_eq 1 (e - 2)
  have hpow : (2 : ℚ) ^ (e - 2) = 2 ^ e / 4 := by
    rw [zpow_sub₀ two_ne_zero]
    norm_num
  rw [hpow] at hquarter
  have hone : 1 ≤ 4 * m := by omega
  have htwo : 2 ≤ 4 * m := by omega
  refine ⟨hpos, ?_, ?_, ?_, rfl⟩
  · by_cases hpower : m = leastNormalMantissa ∧ leastExponent < e
    · simp only [RoundingInterval.of, if_pos hpower]
      push_cast [hone]
      rw [mul_div_assoc, hquarter]
      norm_num
      ring
    · simp only [RoundingInterval.of, if_neg hpower]
      push_cast [htwo]
      rw [mul_div_assoc, hquarter]
      norm_num
      ring
  · simp only [RoundingInterval.of]
    push_cast
    rw [mul_div_assoc, hquarter]
    norm_num
    ring
  · simp only [RoundingInterval.of]
    push_cast
    rw [mul_div_assoc, hquarter]
    norm_num
    ring

theorem RoundingInterval.Spans.scale (h : interval.Spans m e 0) (shift : ℤ) :
    (interval.scale shift).Spans m e shift := by
  obtain ⟨hpos, hlow, hvalue, hhigh, hclosed⟩ := h
  rw [zpow_zero, div_one] at hlow hvalue hhigh
  cases shift with
  | ofNat s =>
    refine ⟨Nat.mul_pos hpos (Nat.pow_pos (by decide)), ?_, ?_, ?_, hclosed⟩ <;>
      simp only [RoundingInterval.scale, Int.ofNat_eq_natCast, zpow_natCast] <;> push_cast
    · rw [← div_div, hlow]
    · rw [← div_div, hvalue]
    · rw [← div_div, hhigh]
  | negSucc s =>
    refine ⟨hpos, ?_, ?_, ?_, hclosed⟩ <;>
      simp only [RoundingInterval.scale, zpow_negSucc, div_inv_eq_mul] <;> push_cast
    · rw [mul_div_right_comm, hlow]
    · rw [mul_div_right_comm, hvalue]
    · rw [mul_div_right_comm, hhigh]

/-- What lies on the grid and in the interval denotes a number from the interval. -/
theorem RoundingInterval.Spans.within {shift : ℤ} (h : interval.Spans m e shift) {n : ℕ}
    (hn : interval.contains n = true) : Within (n * 10 ^ shift) m e := by
  obtain ⟨hpos, hlow, _, hhigh, hclosed⟩ := h
  have hden : (0 : ℚ) < interval.denominator := by exact_mod_cast hpos
  have hten : (0 : ℚ) < 10 ^ shift := zpow_pos (by norm_num) shift
  have he := zpow_two_pos e
  rw [div_eq_div_iff hden.ne' hten.ne'] at hlow hhigh
  rw [contains, hclosed] at hn
  -- The same comparison, of the texts' numbers and of the reals.
  have hends : (interval.low * 10 ^ shift : ℚ) ≤ n * 10 ^ shift * interval.denominator ∧
      (n * 10 ^ shift * interval.denominator : ℚ) ≤ interval.high * 10 ^ shift ∧
      (m % 2 = 1 → (interval.low * 10 ^ shift : ℚ) < n * 10 ^ shift * interval.denominator ∧
        (n * 10 ^ shift * interval.denominator : ℚ) < interval.high * 10 ^ shift) := by
    by_cases heven : m % 2 = 0
    · rw [if_pos (decide_eq_true heven), Bool.and_eq_true, decide_eq_true_eq, decide_eq_true_eq] at hn
      have hl : (interval.low : ℚ) ≤ n * interval.denominator := by exact_mod_cast hn.1
      have hh : (n * interval.denominator : ℚ) ≤ interval.high := by exact_mod_cast hn.2
      exact ⟨by nlinarith, by nlinarith, fun hodd => by omega⟩
    · rw [if_neg (by simpa using heven), Bool.and_eq_true, decide_eq_true_eq,
        decide_eq_true_eq] at hn
      have hl : (interval.low : ℚ) < n * interval.denominator := by exact_mod_cast hn.1
      have hh : (n * interval.denominator : ℚ) < interval.high := by exact_mod_cast hn.2
      exact ⟨by nlinarith, by nlinarith, fun _ => ⟨by nlinarith, by nlinarith⟩⟩
  rw [hlow, hhigh] at hends
  obtain ⟨hl, hh, hodd⟩ := hends
  have hl := le_of_mul_le_mul_right hl hden
  have hh := le_of_mul_le_mul_right hh hden
  have hbelow : (if m = leastNormalMantissa ∧ leastExponent < e then 1 / 4 else 1 / 2 : ℚ) ≤ 1 / 2 := by
    split <;> norm_num
  refine ⟨le_trans ?_ hl, fun hpower hmin => ?_, hh, fun ho => ⟨lt_of_le_of_lt ?_
    (lt_of_mul_lt_mul_right (hodd ho).1 hden.le), lt_of_mul_lt_mul_right (hodd ho).2 hden.le⟩⟩
  · exact mul_le_mul_of_nonneg_right (by linarith) he.le
  · rwa [if_pos ⟨hpower, hmin⟩] at hl
  · exact mul_le_mul_of_nonneg_right (by linarith) he.le

/-- A neighbour that is taken denotes a number from the interval. -/
theorem RoundingInterval.Spans.within_neighbour {shift : ℤ} (h : interval.Spans m e shift) {n : ℕ}
    (hn : interval.neighbour? = some n) : Within (n * 10 ^ shift) m e := by
  unfold neighbour? at hn
  extract_lets below nearest other at hn
  split at hn
  · next hnearest =>
    obtain rfl := Option.some.inj hn
    exact h.within hnearest
  · split at hn
    · next hother =>
      obtain rfl := Option.some.inj hn
      exact h.within hother
    · contradiction

/-- On a grid that is finer than the doubles the nearest whole number is in the interval. -/
theorem RoundingInterval.Spans.within_nearest {shift : ℤ} (h : interval.Spans m e shift)
    (hfine : (10 : ℚ) ^ shift < 2 ^ e)
    (hfiner : m = leastNormalMantissa → (10 : ℚ) ^ shift ≤ 2 ^ e / 2) :
    Within (roundQuotient interval.value interval.denominator * 10 ^ shift) m e := by
  obtain ⟨hpos, _, hvalue, _, _⟩ := h
  have hden : (0 : ℚ) < interval.denominator := by exact_mod_cast hpos
  have hten : (0 : ℚ) < 10 ^ shift := zpow_pos (by norm_num) shift
  obtain ⟨hlow, hhigh⟩ := roundQuotient_near interval.value hpos
  generalize roundQuotient interval.value interval.denominator = n at *
  have hlow : (2 * interval.value : ℚ) ≤ 2 * interval.denominator * n + interval.denominator := by
    exact_mod_cast hlow
  have hhigh : (2 * interval.denominator * n : ℚ) ≤ 2 * interval.value + interval.denominator := by
    exact_mod_cast hhigh
  rw [div_eq_div_iff hden.ne' hten.ne'] at hvalue
  -- Half a step of the grid is all that can be between the two.
  have hdown : (m * 2 ^ e - 10 ^ shift / 2 : ℚ) ≤ n * 10 ^ shift := by
    refine le_of_mul_le_mul_right ?_ hden
    nlinarith
  have hup : (n * 10 ^ shift : ℚ) ≤ m * 2 ^ e + 10 ^ shift / 2 := by
    refine le_of_mul_le_mul_right ?_ hden
    nlinarith
  refine ⟨by linarith, fun hpower _ => ?_, by linarith, fun _ => ⟨by linarith, by linarith⟩⟩
  have hhalf := hfiner hpower
  linarith

end Interval

section Magnitude

theorem lt_ten_pow (n : ℕ) : n < 10 ^ (digitsOf n).length :=
  (Nat.length_toDigits_le_iff (by decide) (Nat.length_toDigits_pos)).mp le_rfl

theorem ten_pow_le {n : ℕ} (hn : 0 < n) : 10 ^ ((digitsOf n).length - 1) ≤ n := by
  by_contra hlt
  have hpos : 0 < (digitsOf n).length := Nat.length_toDigits_pos
  by_cases hone : (digitsOf n).length = 1
  · rw [hone] at hlt
    omega
  · have hshort := (Nat.length_toDigits_le_iff (b := 10) (by decide)
      (show 0 < (digitsOf n).length - 1 by omega)).mpr (Nat.not_le.mp hlt)
    have hsame : (Nat.toDigits 10 n).length = (digitsOf n).length := rfl
    omega

/-- The power of ten of the first digit is not above the number. -/
theorem magnitude_le {n d : ℕ} (hn : 0 < n) (hd : 0 < d) :
    (10 : ℚ) ^ magnitude n d ≤ n / d := by
  have hd' : (0 : ℚ) < d := by exact_mod_cast hd
  unfold magnitude
  extract_lets guess reached
  split
  · next hreached =>
    rw [le_div_iff₀ hd']
    unfold reached at hreached
    clear_value guess
    cases guess with
    | ofNat g =>
      rw [Int.ofNat_eq_natCast, zpow_natCast]
      exact_mod_cast of_decide_eq_true hreached
    | negSucc g =>
      rw [zpow_negSucc, inv_mul_le_iff₀ (by positivity), mul_comm]
      exact_mod_cast of_decide_eq_true hreached
  · -- The first guess is too large by at most one.
    have hlow : (10 : ℚ) ^ ((digitsOf n).length - 1) ≤ n := by exact_mod_cast ten_pow_le hn
    have hhigh : (d : ℚ) ≤ 10 ^ (digitsOf d).length := by exact_mod_cast (lt_ten_pow d).le
    have hpos : 0 < (digitsOf n).length := Nat.length_toDigits_pos
    have hguess : guess - 1 = ((digitsOf n).length - 1 : ℕ) - ((digitsOf d).length : ℤ) := by
      unfold guess
      push_cast [hpos]
      ring
    rw [hguess, zpow_sub₀ (by norm_num), zpow_natCast, zpow_natCast]
    exact div_le_div₀ (by positivity) hlow hd' hhigh

end Magnitude

section Search

variable {m : ℕ} {e : ℤ} {interval : RoundingInterval}

/-- The search ends with digits on some grid that denote a number from the interval. -/
theorem exists_shortestFrom (hc : Canonical m e) (h : interval.Spans m e 0) {first : ℤ}
    (hfirst : (10 : ℚ) ^ first ≤ m * 2 ^ e) {count more : ℕ}
    (hcount : count + more = sufficientDigits) :
    ∃ n shift, shortestFrom interval first count more = .ofScaled n shift ∧
      Within (n * 10 ^ shift) m e := by
  induction more generalizing count with
  | zero =>
    obtain rfl : count = 17 := hcount
    have he := zpow_two_pos e
    have hgrid : (10 : ℚ) ^ first = 10 ^ 16 * 10 ^ (first + 1 - (17 : ℕ)) := by
      rw [← zpow_natCast, ← zpow_add₀ (by norm_num)]
      congr 1
      push_cast
      ring
    have hm : (m : ℚ) + 1 ≤ 2 ^ 53 := by exact_mod_cast hc.fits
    rw [hgrid] at hfirst
    refine ⟨_, _, rfl, (h.scale _).within_nearest ?_ fun hpower => ?_⟩
    · nlinarith
    · have hpower : (m : ℚ) = 2 ^ 52 := by
        rw [hpower]
        norm_num [leastNormalMantissa]
      rw [hpower] at hfirst
      generalize (2 : ℚ) ^ e = unit at *
      generalize (10 : ℚ) ^ (first + 1 - (17 : ℕ)) = step at *
      linarith
  | succ more ih =>
    rw [shortestFrom]
    split
    · next n hn => exact ⟨n, _, rfl, (h.scale _).within_neighbour hn⟩
    · exact ih (by omega)

/-- The shortest digits of a double denote a number from its interval. -/
theorem exists_shortestDigits (hc : Canonical m e) :
    ∃ n shift, 0 < n ∧ shortestDigits m e = .ofScaled n shift ∧ Within (n * 10 ^ shift) m e := by
  have hspans := RoundingInterval.of_spans hc.pos e
  have hvalue := hspans.value
  rw [zpow_zero, div_one] at hvalue
  have hpos : 0 < (RoundingInterval.of m e).value := by
    rw [Nat.pos_iff_ne_zero]
    intro hzero
    have hm : (0 : ℚ) < m := by exact_mod_cast hc.pos
    rw [hzero, Nat.cast_zero, zero_div] at hvalue
    exact (mul_pos hm (zpow_two_pos e)).ne hvalue
  have hfirst := magnitude_le hpos hspans.pos
  rw [hvalue] at hfirst
  obtain ⟨n, shift, hdigits, hwithin⟩ := exists_shortestFrom hc hspans hfirst
    (show 1 + (sufficientDigits - 1) = sufficientDigits from rfl)
  refine ⟨n, shift, Nat.pos_of_ne_zero fun hzero => ?_, hdigits, hwithin⟩
  have hv := hwithin.pos hc
  rw [hzero, Nat.cast_zero, zero_mul] at hv
  exact lt_irrefl _ hv

end Search

end Storyboard.Decimal
