import Storyboard.Proofs.Doubles

/-!
# Doubles above zero

A product with a power of two and a sum with a summand from zero up stay above zero: they may be
rounded to infinity, but not to zero, since no exact result lies below the least double. What is no
number stays none.
-/

namespace Storyboard.Decimal

-- Powers are those of the core library, whatever else is imported.
attribute [local instance (high)] instPowNat instNatPowNat Int.instNatPow

open Float.Model Float.Model.UnpackedFloat

/-- Above zero, infinity included. -/
def isAbove : UnpackedFloat → Bool
  | .infinity .positive => true
  | .finite .positive _ _ _ => true
  | _ => false

section Rounding

variable {m : Nat} {e : Int}

theorem shiftRight_mantissa (extended : ExtendedMantissa) (k : Nat) :
    (extended >>> k).mantissa = extended.mantissa / 2 ^ k := by
  change (k.repeat ExtendedMantissa.shiftRightOne extended).mantissa = _
  induction k with
  | zero => exact (Nat.div_one _).symm
  | succ k ih =>
    rw [Nat.repeat, ExtendedMantissa.shiftRightOne, ih, Nat.div_div_eq_div_mul, Nat.pow_succ]

theorem mantissa_le_roundedMantissa (extended : ExtendedMantissa) :
    extended.mantissa ≤ extended.roundedMantissa := by
  obtain ⟨mantissa, roundBit, stickyBit⟩ := extended
  cases roundBit <;> cases stickyBit <;>
    simp [ExtendedMantissa.roundedMantissa, ExtendedMantissa.accuracy, Accuracy.roundToNearestEven]

/-- A mantissa and an exponent that a double has room for, unless the exponent is too large. -/
structure Fits (m : Nat) (e : Int) : Prop where
  above : 0 < m
  below : m < 2 ^ 53
  least : -1074 ≤ e

/-- A size that is not below the least double is not shifted away. -/
theorem fits_shifted {k : Nat} (hm : 2 ^ k ≤ m) (he : -1074 ≤ e + k) :
    Fits (shiftToTargetExponent Format.binary64 m e .exact).1.mantissa
      (shiftToTargetExponent Format.binary64 m e .exact).2 := by
  have hne : m ≠ 0 := Nat.ne_of_gt (Nat.lt_of_lt_of_le (Nat.two_pow_pos k) hm)
  have htarget : Format.binary64.targetExponent (totalExponent m e) =
      max (m.log2 + 1 + e - 53) (-1074) := by
    rw [Format.targetExponent]
    rfl
  have hlog : k ≤ m.log2 := (Nat.le_log2 hne).mpr hm
  rw [shiftToTargetExponent, htarget, shiftToExponent]
  generalize hs : (max ((m.log2 : Int) + 1 + e - 53) (-1074) - e).toNat = shift
  have hmantissa : (ExtendedMantissa.ofMantissaAndAccuracy m .exact >>> shift).mantissa =
      m / 2 ^ shift := shiftRight_mantissa _ _
  rw [hmantissa]
  refine ⟨Nat.div_pos ?_ (Nat.two_pow_pos _), ?_, by omega⟩
  · calc 2 ^ shift ≤ 2 ^ m.log2 := Nat.pow_le_pow_right Nat.two_pos (by omega)
      _ ≤ m := Nat.log2_self_le hne
  · rw [Nat.div_lt_iff_lt_mul (Nat.two_pow_pos _), ← Nat.pow_add]
    calc m < 2 ^ (m.log2 + 1) := Nat.lt_log2_self
      _ ≤ 2 ^ (53 + shift) := Nat.pow_le_pow_right Nat.two_pos (by omega)

theorem roundWithAccuracy_above {k : Nat} (hm : 2 ^ k ≤ m) (he : -1074 ≤ e + k) :
    ∃ m' e', ∃ h : Fits m' e',
      roundWithAccuracy Format.binary64 .positive m e .exact = .finite .positive m' e' h.above := by
  have hfirst := fits_shifted hm he
  have hrounded := mantissa_le_roundedMantissa (shiftToTargetExponent Format.binary64 m e .exact).1
  have habove := hfirst.above
  have hleast := hfirst.least
  have hsecond := fits_shifted (k := 0)
    (m := (shiftToTargetExponent Format.binary64 m e .exact).1.roundedMantissa)
    (e := (shiftToTargetExponent Format.binary64 m e .exact).2) (by omega) (by omega)
  exact ⟨_, _, hsecond, dif_neg (Nat.ne_of_gt hsecond.above)⟩

end Rounding

section Packing

theorem isAbove_packComponents {exponent : BitVec 11} {mantissa : BitVec 52} (h : exponent ≠ -1#11)
    (hsize : exponent ≠ 0#11 ∨ mantissa ≠ 0#52) :
    isAbove (unpack Format.binary64 (packComponents Format.binary64 .positive exponent mantissa)) =
      true := by
  simp only [UnpackedFloat.unpack, unpackMantissa_packComponents, unpackExponent_packComponents,
    unpackSign_packComponents, Sign.ofBitVec_toBitVec]
  rw [if_neg h]
  split
  · next hzero =>
    rw [dif_neg (hsize.resolve_left (not_not_intro hzero))]
    rfl
  · rfl

/-- What a double has room for is not packed as zero. -/
theorem isAbove_unpack_pack {m : Nat} {e : Int} (h : Fits m e) :
    isAbove (unpack Format.binary64 (pack Format.binary64 (.finite .positive m e h.above))) =
      true := by
  have hleast := h.least
  have habove := h.above
  simp only [UnpackedFloat.pack]
  rw [biased_eq]
  split
  · rfl
  · next hfits =>
    split
    · apply isAbove_packComponents
      · intro hall
        have hsame := congrArg BitVec.toNat hall
        have hones : (-1#11).toNat = 2047 := by decide
        rw [BitVec.toNat_ofNat, hones] at hsame
        omega
      · refine .inl fun hzero => ?_
        have hsame := congrArg BitVec.toNat hzero
        rw [BitVec.toNat_ofNat, BitVec.toNat_ofNat] at hsame
        omega
    · next hlog =>
      refine isAbove_packComponents (by decide) (.inr fun hzero => ?_)
      have hsame := congrArg BitVec.toNat hzero
      have hbits : Format.binary64.mantissaBits = 53 := rfl
      have hbelow : m.log2 < 53 := (Nat.log2_lt (by omega)).mpr h.below
      have hsmall : m < 2 ^ 52 := (Nat.log2_lt (by omega)).mp (by omega)
      rw [BitVec.toNat_ofNat, BitVec.toNat_ofNat, Nat.mod_eq_of_lt hsmall] at hsame
      omega

theorem isAbove_pack_round {m : Nat} {e : Int} {k : Nat} (hm : 2 ^ k ≤ m) (he : -1074 ≤ e + k) :
    isAbove (Float.Model.pack
      (roundWithAccuracy Format.binary64 .positive m e .exact)).unpack = true := by
  obtain ⟨m', e', hfits, hround⟩ := roundWithAccuracy_above hm he
  rw [hround]
  exact isAbove_unpack_pack hfits

end Packing

section Unpacking

/-- No double lies below the least one. -/
theorem least_le_of_unpack {x : Float.Model} {sign : Sign} {m : Nat} {e : Int} {hm : 0 < m}
    (h : x.unpack = .finite sign m e hm) : -1074 ≤ e := by
  have hbias : Format.binary64.exponentBias = 1023 := by decide
  simp only [Float.Model.unpack, UnpackedFloat.unpack, hbias] at h
  split at h
  · split at h <;> cases h
  · split at h
    · next hzero =>
      split at h
      · cases h
      · cases h
        rw [hzero]
        decide
    · next hne =>
      cases h
      have hpos := BitVec.toNat_pos_of_ne_zero hne
      omega

theorem pack_unpack_model (x : Float.Model) : Float.Model.pack x.unpack = x := by
  have hbits : UnpackedFloat.pack Format.binary64 x.unpack = x.toBits.toBitVec :=
    pack_unpack_of_valid x.valid
  cases x
  simp only [Float.Model.pack, hbits]

/-- From one up, with a full mantissa. -/
def isFromOne : UnpackedFloat → Bool
  | .finite .positive m e _ => decide (2 ^ 52 ≤ m) && decide (-52 ≤ e)
  | _ => false

/-- The powers of two that have doubles are unpacked with a full mantissa. -/
theorem isFromOne_two_pow {n : Nat} (hn : n < doubleExponents) :
    isFromOne (Float.ofNat (2 ^ n)).toModel.unpack = true := by
  have hsmall : ∀ k < 53, isFromOne (Float.ofNat (2 ^ k)).toModel.unpack = true := by
    decide +kernel
  by_cases h53 : n < 53
  · exact hsmall n h53
  have hlast : n < 1024 := hn
  have hbiased : ((n : Int) - 52 + 1075).toNat = n + 1023 := by omega
  have hpacked : UnpackedFloat.pack Format.binary64
      (.finite .positive (2 ^ 52) (n - 52) (Nat.two_pow_pos 52)) =
        packComponents Format.binary64 .positive (BitVec.ofNat 11 (n + 1023)) 0#52 := by
    simp only [UnpackedFloat.pack]
    rw [biased_eq, hbiased, if_neg (by omega), Nat.log2_two_pow]
    exact if_pos rfl
  have hexponent : (BitVec.ofNat 11 (n + 1023)).toNat = n + 1023 := by
    rw [BitVec.toNat_ofNat]
    omega
  have hzero : BitVec.ofNat 11 (n + 1023) ≠ 0#11 := by
    intro h
    rw [h, BitVec.toNat_zero] at hexponent
    omega
  have hones : BitVec.ofNat 11 (n + 1023) ≠ -1#11 := by
    intro h
    have hvalue : (-1#11).toNat = 2047 := by decide
    rw [h, hvalue] at hexponent
    omega
  rw [ofNat_two_pow (by omega)]
  change isFromOne (unpack Format.binary64 (UnpackedFloat.pack Format.binary64 _)) = true
  rw [hpacked]
  simp only [UnpackedFloat.unpack, unpackMantissa_packComponents, unpackExponent_packComponents,
    unpackSign_packComponents, Sign.ofBitVec_toBitVec]
  rw [if_neg hones, if_neg hzero, isFromOne, hexponent]
  have hmantissa : 2 ^ 52 ≤ (1#1 ++ 0#52).toNat := by decide
  have hleast : (-52 : Int) ≤ ((n + 1023 : Nat) : Int) -
      (Format.binary64.exponentBias + Format.binary64.mantissaBitsWithoutImplicit) := by
    have hvalue : Format.binary64.exponentBias = 1023 := by decide
    rw [hvalue]
    change (-52 : Int) ≤ ((n + 1023 : Nat) : Int) - (1023 + 52)
    omega
  rw [decide_eq_true hmantissa, decide_eq_true hleast]
  rfl

end Unpacking

section Operations

variable {x y : Float.Model}

theorem isAbove_cases {found : UnpackedFloat} (h : isAbove found = true) :
    found = .infinity .positive ∨ ∃ m e hm, found = .finite .positive m e hm := by
  cases found with
  | infinity sign =>
    cases sign with
    | positive => exact .inl rfl
    | negative => contradiction
  | finite sign m e hm =>
    cases sign with
    | positive => exact .inr ⟨m, e, hm, rfl⟩
    | negative => contradiction
  | notANumber | zero => contradiction

theorem isFromOne_cases {found : UnpackedFloat} (h : isFromOne found = true) :
    ∃ m e hm, found = .finite .positive m e hm ∧ 2 ^ 52 ≤ m ∧ -52 ≤ e := by
  cases found with
  | finite sign m e hm =>
    cases sign with
    | positive =>
      obtain ⟨hfull, hleast⟩ := (Bool.and_eq_true _ _).mp h
      exact ⟨m, e, hm, rfl, of_decide_eq_true hfull, of_decide_eq_true hleast⟩
    | negative => contradiction
  | infinity | notANumber | zero => contradiction

theorem isAbove_infinity : isAbove (Float.Model.pack (.infinity .positive)).unpack = true := by
  decide

theorem isAbove_mul (hx : isAbove x.unpack = true) (hy : isFromOne y.unpack = true) :
    isAbove (x * y).unpack = true := by
  change isAbove (Float.Model.pack
    (UnpackedFloat.mul Format.binary64 x.unpack y.unpack)).unpack = true
  obtain ⟨m', e', hm', hfactor, hfull, hfactorLeast⟩ := isFromOne_cases hy
  rcases isAbove_cases hx with hinf | ⟨m, e, hm, hfound⟩
  · rw [hinf, hfactor]
    exact isAbove_infinity
  · have hleast := least_le_of_unpack hfound
    have hproduct : 2 ^ 52 ≤ m * m' := Nat.le_trans hfull (Nat.le_mul_of_pos_left m' hm)
    rw [hfound, hfactor]
    exact isAbove_pack_round hproduct (by omega)

theorem isAbove_round {m : Nat} {e : Int} (hm : 0 < m) (he : -1074 ≤ e) :
    isAbove (Float.Model.pack (UnpackedFloat.round Format.binary64 .positive m e)).unpack =
      true := by
  unfold UnpackedFloat.round decreaseExponent
  dsimp only
  refine isAbove_pack_round (k := (e - Format.binary64.targetExponent (totalExponent m e)).toNat)
    ?_ (by omega)
  rw [Nat.shiftLeft_eq]
  exact Nat.le_mul_of_pos_left _ hm

theorem normalize_of_pos {m : Nat} (hm : 0 < m) (e : Int) (sign : Sign) :
    normalize Format.binary64 (m : Int) e sign =
      UnpackedFloat.round Format.binary64 .positive m e := by
  have hcompare : compare (m : Int) 0 = .gt := compare_gt_iff_gt.mpr (Int.natCast_pos.mpr hm)
  unfold UnpackedFloat.normalize
  rw [hcompare]
  rfl

theorem isAbove_add (hx : isAbove x.unpack = true)
    (hy : isAbove y.unpack = true ∨ ∃ sign, y.unpack = .zero sign) :
    isAbove (x + y).unpack = true := by
  change isAbove (Float.Model.pack
    (UnpackedFloat.add Format.binary64 x.unpack y.unpack)).unpack = true
  rcases isAbove_cases hx with hinf | ⟨m, e, hm, hfound⟩
  · have hsum : UnpackedFloat.add Format.binary64 (.infinity .positive) y.unpack =
        .infinity .positive := by
      rcases hy with hy | ⟨sign, hy⟩
      · rcases isAbove_cases hy with hy | ⟨m', e', hm', hy⟩
        · rw [hy]
          rfl
        · rw [hy]
          rfl
      · rw [hy]
        rfl
    rw [hinf, hsum]
    exact isAbove_infinity
  rcases hy with hy | ⟨sign, hy⟩
  · rcases isAbove_cases hy with hy | ⟨m', e', hm', hy⟩
    · rw [hfound, hy]
      exact isAbove_infinity
    · have hleast := least_le_of_unpack hfound
      have hother := least_le_of_unpack hy
      have hsum : 0 < m <<< (e - min e e').toNat + m' <<< (e' - min e e').toNat := by
        rw [Nat.shiftLeft_eq]
        exact Nat.add_pos_left (Nat.mul_pos hm (Nat.two_pow_pos _)) _
      rw [hfound, hy]
      change isAbove (Float.Model.pack (normalize Format.binary64
        (((m <<< (e - min e e').toNat + m' <<< (e' - min e e').toNat : Nat)) : Int)
        (min e e') .positive)).unpack = true
      rw [normalize_of_pos hsum]
      exact isAbove_round hsum (by omega)
  · have hsum : UnpackedFloat.add Format.binary64 x.unpack y.unpack = x.unpack := by
      rw [hfound, hy]
      rfl
    rw [hsum, pack_unpack_model, hx]

theorem unpack_nan : (Float.Model.pack .notANumber).unpack = .notANumber :=
  unpack_packedNaN

theorem unpack_mul_nan (h : x.unpack = .notANumber) : (x * y).unpack = .notANumber := by
  change (Float.Model.pack (UnpackedFloat.mul Format.binary64 x.unpack y.unpack)).unpack = _
  rw [h]
  exact unpack_nan

theorem unpack_add_nan (h : x.unpack = .notANumber) : (x + y).unpack = .notANumber := by
  change (Float.Model.pack (UnpackedFloat.add Format.binary64 x.unpack y.unpack)).unpack = _
  rw [h]
  exact unpack_nan

end Operations

section Floats

variable {x y : Float}

theorem lt_iff_unpack : x < y ↔ x.toModel.unpack.lt y.toModel.unpack = true :=
  decide_eq_true_iff

theorem le_iff_unpack : x ≤ y ↔ x.toModel.unpack.le y.toModel.unpack = true :=
  decide_eq_true_iff

theorem unpack_zero : (0 : Float).toModel.unpack = .zero .positive := by rfl

theorem zero_lt_iff : 0 < x ↔ isAbove x.toModel.unpack = true := by
  rw [lt_iff_unpack, unpack_zero]
  cases x.toModel.unpack with
  | infinity sign => cases sign <;> exact Iff.rfl
  | finite sign => cases sign <;> exact Iff.rfl
  | notANumber | zero => exact Iff.rfl

theorem zero_le_iff :
    0 ≤ x ↔ isAbove x.toModel.unpack = true ∨ ∃ sign, x.toModel.unpack = .zero sign := by
  rw [le_iff_unpack, unpack_zero]
  cases x.toModel.unpack with
  | infinity sign => cases sign <;> simp [UnpackedFloat.le, UnpackedFloat.compare, isAbove]
  | finite sign => cases sign <;> simp [UnpackedFloat.le, UnpackedFloat.compare, isAbove]
  | notANumber | zero => simp [UnpackedFloat.le, UnpackedFloat.compare, isAbove]

theorem isNaN_iff_unpack : x.isNaN = true ↔ x.toModel.unpack = .notANumber := isNaN_iff

/-- A refusal of what is not above zero lets through what is no number. -/
theorem not_le_zero_iff : ¬ x ≤ 0 ↔ 0 < x ∨ x.isNaN = true := by
  rw [le_iff_unpack, unpack_zero, zero_lt_iff, isNaN_iff_unpack]
  cases x.toModel.unpack with
  | infinity sign => cases sign <;> simp [UnpackedFloat.le, UnpackedFloat.compare, isAbove]
  | finite sign => cases sign <;> simp [UnpackedFloat.le, UnpackedFloat.compare, isAbove]
  | notANumber | zero => simp [UnpackedFloat.le, UnpackedFloat.compare, isAbove]

theorem isNaN_of_zero_lt (h : 0 < x) : x.isNaN = false := by
  rw [zero_lt_iff] at h
  change x.toModel.unpack.isNaN = false
  rcases isAbove_cases h with hx | ⟨m, e, hm, hx⟩
  · rw [hx]
    rfl
  · rw [hx]
    rfl

theorem compare_nan (found : UnpackedFloat) : found.compare .notANumber = none := by
  cases found <;> rfl

theorem isNaN_of_le (h : x ≤ y) : y.isNaN = false := by
  by_contra hnan
  rw [le_iff_unpack, isNaN_iff_unpack.mp (eq_true_of_ne_false hnan), UnpackedFloat.le,
    compare_nan] at h
  contradiction

theorem isNaN_of_lt (h : x < y) : y.isNaN = false := by
  by_contra hnan
  rw [lt_iff_unpack, isNaN_iff_unpack.mp (eq_true_of_ne_false hnan), UnpackedFloat.lt,
    compare_nan] at h
  contradiction

theorem le_of_not_lt (hx : 0 < x) (hy : 0 < y) (h : ¬ y < x) : x ≤ y := by
  rw [zero_lt_iff] at hx hy
  rw [lt_iff_unpack] at h
  rw [le_iff_unpack]
  rcases isAbove_cases hx with hx | ⟨m, e, hm, hx⟩
  · rcases isAbove_cases hy with hy | ⟨m', e', hm', hy⟩
    · rw [hx, hy]
      rfl
    · rw [hx, hy] at h
      exact absurd rfl h
  · rcases isAbove_cases hy with hy | ⟨m', e', hm', hy⟩
    · rw [hx, hy]
      rfl
    · have hswap : (compare e e').then (compare m m') =
          ((compare e' e).then (compare m' m)).swap := by
        rw [Ordering.swap_then, ← Std.OrientedCmp.eq_swap, ← Std.OrientedCmp.eq_swap]
      rw [hx, hy] at h ⊢
      change ((compare e e').then (compare m m')).isLE = true
      rw [hswap]
      cases hc : (compare e' e).then (compare m' m) with
      | lt =>
        refine absurd ?_ h
        change (some ((compare e' e).then (compare m' m)) == some .lt) = true
        rw [hc]
        rfl
      | eq => rfl
      | gt => rfl

theorem le_self (hx : 0 < x) : x ≤ x := by
  refine le_of_not_lt hx hx fun h => ?_
  rw [lt_iff_unpack] at h
  rcases isAbove_cases (zero_lt_iff.mp hx) with hfound | ⟨m, e, hm, hfound⟩
  · rw [hfound] at h
    contradiction
  · have hself : (compare e e).then (compare m m) = .eq := by simp
    rw [hfound] at h
    change (some ((compare e e).then (compare m m)) == some .lt) = true at h
    rw [hself] at h
    contradiction

theorem zero_lt_mul_two_pow {n : Nat} (hx : 0 < x) (hn : n < doubleExponents) :
    0 < x * Float.ofNat (2 ^ n) :=
  zero_lt_iff.mpr (isAbove_mul (zero_lt_iff.mp hx) (isFromOne_two_pow hn))

theorem zero_lt_add (hx : 0 < x) (hy : 0 ≤ y) : 0 < x + y :=
  zero_lt_iff.mpr (isAbove_add (zero_lt_iff.mp hx) (zero_le_iff.mp hy))

theorem isNaN_mul (h : x.isNaN = true) : (x * y).isNaN = true :=
  isNaN_iff_unpack.mpr (unpack_mul_nan (isNaN_iff_unpack.mp h))

theorem isNaN_add (h : x.isNaN = true) : (x + y).isNaN = true :=
  isNaN_iff_unpack.mpr (unpack_add_nan (isNaN_iff_unpack.mp h))

end Floats

end Storyboard.Decimal
