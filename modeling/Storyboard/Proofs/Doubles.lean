import Mathlib
import Storyboard.Decimal.Whole

/-!
# Powers of two as doubles

A power of two is a double if its exponent is below 1024, and beyond all doubles otherwise. Below
`2 ^ 53` it is computed as a product of doubles. From there on it goes through the exact
conversion, where its one digit is shifted to the place that a mantissa has and nothing is rounded.
-/

namespace Storyboard.Decimal

-- Powers are those of the core library, whatever else is imported.
attribute [local instance (high)] instPowNat instNatPowNat Int.instNatPow

open Float.Model Float.Model.UnpackedFloat

section Rounding

theorem shiftRight_two_pow (m k : Nat) :
    ExtendedMantissa.mk (2 ^ (m + k)) false false >>> k = ⟨2 ^ m, false, false⟩ := by
  change k.repeat ExtendedMantissa.shiftRightOne _ = _
  induction k generalizing m with
  | zero => rfl
  | succ k ih =>
    have hrest := ih (m + 1)
    rw [Nat.add_assoc, Nat.add_comm 1 k] at hrest
    rw [Nat.repeat, hrest, ExtendedMantissa.shiftRightOne, Nat.pow_succ,
      Nat.mul_div_cancel _ Nat.two_pos, Nat.mul_mod_left]
    rfl

theorem shiftToTargetExponent_two_pow (k : Nat) {e : Int} (he : -1074 ≤ e + k) :
    shiftToTargetExponent Format.binary64 (2 ^ (52 + k)) e .exact =
      (⟨2 ^ 52, false, false⟩, e + k) := by
  have htarget : Format.binary64.targetExponent (totalExponent (2 ^ (52 + k)) e) = e + k := by
    have hleast : Format.binary64.minExponent = -1074 := by decide
    have hbits : Format.binary64.mantissaBits = 53 := by decide
    rw [Format.targetExponent, totalExponent, Nat.log2_two_pow, hleast, hbits]
    omega
  have hshift : (e + k - e).toNat = k := by omega
  rw [shiftToTargetExponent, htarget, shiftToExponent, hshift]
  exact Prod.ext (shiftRight_two_pow 52 k) rfl

/-- A power of two is not rounded. -/
theorem roundWithAccuracy_two_pow (k : Nat) {e : Int} (he : -1074 ≤ e + k) :
    roundWithAccuracy Format.binary64 .positive (2 ^ (52 + k)) e .exact =
      .finite .positive (2 ^ 52) (e + k) (by decide) := by
  have hagain : shiftToTargetExponent Format.binary64 (2 ^ 52) (e + k) .exact =
      (⟨2 ^ 52, false, false⟩, e + k) := by
    have hnone := shiftToTargetExponent_two_pow 0 (e := e + k) (by omega)
    rwa [Int.natCast_zero, Int.add_zero] at hnone
  rw [roundWithAccuracy, shiftToTargetExponent_two_pow k he]
  dsimp only [ExtendedMantissa.roundedMantissa, ExtendedMantissa.accuracy,
    Accuracy.roundToNearestEven]
  rw [hagain]
  have hne : (2 : Nat) ^ 52 ≠ 0 := by decide
  exact dif_neg hne

theorem ofNat_two_pow {n : Nat} (hn : 53 ≤ n) : Float.ofNat (2 ^ n) =
    .ofModel (.pack (.finite .positive (2 ^ 52) (n - 52) (by decide))) := by
  have hbig : ¬ (2 ^ n < 2 ^ 53 ∧ 0 ≤ 22) := by
    have hle := Nat.pow_le_pow_right Nat.two_pos hn
    omega
  have hpos : 2 ^ n ≠ 0 := Nat.ne_of_gt (Nat.two_pow_pos n)
  have hsize : ¬ Int.ofNat 0 < -((2 ^ Format.binary64.exponentBits : Int) + (2 ^ n).log2) := by
    have hbits : Format.binary64.exponentBits = 11 := by decide
    rw [Nat.log2_two_pow, hbits]
    change ¬ (0 : Int) < -(2 ^ 11 + n)
    omega
  have hshift : (2 ^ n) <<< Format.binary64.mantissaBits * 10 ^ (Int.ofNat 0).toNat =
      2 ^ (52 + (n + 1)) := by
    have hbits : Format.binary64.mantissaBits = 53 := by decide
    have hsum : 52 + (n + 1) = n + 53 := by omega
    rw [hbits, Nat.shiftLeft_eq, hsum, Nat.pow_add]
    exact Nat.mul_one _
  have hround := roundWithAccuracy_two_pow (n + 1) (e := -53) (by omega)
  have hexponent : (-53 : Int) + ((n + 1 : Nat) : Int) = n - 52 := by omega
  simp only [hexponent] at hround
  change Float.ofScientific (2 ^ n) false 0 = _
  rw [Float.ofScientific, dif_neg hbig]
  simp only [Bool.false_eq_true, if_false, Float.Model.ofScientific, UnpackedFloat.ofScientific,
    dif_neg hpos]
  rw [if_neg (by decide), if_neg hsize, if_pos (by decide), UnpackedFloat.mul, hshift]
  exact congrArg (fun x => Float.ofModel (.pack x)) hround

end Rounding

section Packing

theorem biased_eq (e : Int) : (e + Format.binary64.exponentBias +
    Format.binary64.mantissaBitsWithoutImplicit).toNat = (e + 1075).toNat := by
  have hvalue : Format.binary64.exponentBias = 1023 := by decide
  rw [hvalue]
  exact congrArg Int.toNat (Int.add_assoc _ _ _)

theorem isInf_packComponents (sign : Sign) {exponent : BitVec 11} (h : exponent ≠ -1#11)
    (mantissa : BitVec 52) :
    (unpack Format.binary64 (packComponents Format.binary64 sign exponent mantissa)).isInf =
      false := by
  simp only [UnpackedFloat.unpack, unpackMantissa_packComponents, unpackExponent_packComponents]
  rw [if_neg h]
  split
  · split <;> rfl
  · rfl

theorem isInf_packedInfinity (sign : Sign) :
    (unpack Format.binary64 (packedInfinity Format.binary64 sign)).isInf = true := by
  cases sign <;> rfl

/-- A number is packed as infinity exactly if its exponent has no room. -/
theorem isInf_pack_finite (sign : Sign) (mantissa : Nat) (exponent : Int) (hm : 0 < mantissa) :
    (Float.Model.pack (.finite sign mantissa exponent hm)).isInf = decide (972 ≤ exponent) := by
  change (unpack Format.binary64 (UnpackedFloat.pack Format.binary64 _)).isInf = _
  simp only [UnpackedFloat.pack]
  rw [biased_eq]
  split
  · next hover =>
    have hlarge : 972 ≤ exponent := by omega
    rw [isInf_packedInfinity, decide_eq_true hlarge]
  · next hfits =>
    have hsmall : ¬ 972 ≤ exponent := by omega
    have hnormal : BitVec.ofNat 11 (exponent + 1075).toNat ≠ -1#11 := by
      intro h
      have hall : (-1#11).toNat = 2047 := by decide
      have hsame := congrArg BitVec.toNat h
      rw [BitVec.toNat_ofNat, hall] at hsame
      omega
    rw [decide_eq_false hsmall]
    split
    · exact isInf_packComponents sign hnormal _
    · exact isInf_packComponents sign (by decide) _

end Packing

/-- The powers of two with smaller exponents have doubles. -/
def doubleExponents : Nat := 1024

theorem isInf_two_pow (n : Nat) : (Float.ofNat (2 ^ n)).isInf = decide (doubleExponents ≤ n) := by
  have hsmall : ∀ k < 53, (Float.ofNat (2 ^ k)).isInf = false := by decide +kernel
  by_cases hn : n < 53
  · have hnot : ¬ doubleExponents ≤ n := by
      unfold doubleExponents
      omega
    rw [hsmall n hn, decide_eq_false hnot]
  · have hiff : 972 ≤ (n : Int) - 52 ↔ doubleExponents ≤ n := by
      unfold doubleExponents
      omega
    rw [ofNat_two_pow (by omega), Float.isInf, isInf_pack_finite]
    exact decide_eq_decide.mpr hiff

/-- A power of two is a double, or it lies beyond all of them. -/
theorem doubleOfInt_two_pow (n : Nat) : doubleOfInt (2 ^ n) =
    if n < doubleExponents then .ok (Float.ofNat (2 ^ n)) else .error .beyondDouble := by
  have hcast : Float.ofInt (2 ^ n) = Float.ofNat (2 ^ n) := by
    have hpow : (2 : Int) ^ n = Int.ofNat (2 ^ n) := (Int.natCast_pow 2 n).symm
    rw [hpow]
    rfl
  rw [doubleOfInt, hcast, isInf_two_pow]
  by_cases hn : n < doubleExponents
  · rw [if_pos hn, decide_eq_false (Nat.not_le.mpr hn)]
    rfl
  · rw [if_neg hn, decide_eq_true (Nat.not_lt.mp hn)]
    rfl

end Storyboard.Decimal
