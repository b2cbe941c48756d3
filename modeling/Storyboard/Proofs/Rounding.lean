import Mathlib
import Storyboard.Decimal.Numeral
import Storyboard.Proofs.Doubles

/-!
# Rounding to the nearest double

The reals that round to a double form an interval around it, whose ends belong to it when the
mantissa is even. A quotient and a product are computed to a mantissa with one bit for the half
and one for what lies below; such a mantissa is followed through the shifts, one bit at a time,
and so every decimal from the interval of a double is read as this double.
-/

namespace Storyboard.Decimal

open Float.Model Float.Model.UnpackedFloat

section Extended

/-- What an extended mantissa tells of a number: the whole part, and where in it the rest lies. -/
def Holds (em : ExtendedMantissa) (q : ℚ) : Prop :=
  match em.roundBit, em.stickyBit with
  | false, false => q = em.mantissa
  | false, true => em.mantissa < q ∧ q < em.mantissa + 1 / 2
  | true, false => q = em.mantissa + 1 / 2
  | true, true => em.mantissa + 1 / 2 < q ∧ q < em.mantissa + 1

/-- The whole number is the nearest to `q`; a half goes to the even one. -/
structure Nearest (q : ℚ) (n : ℕ) : Prop where
  low : n - 1 / 2 ≤ q
  high : q ≤ n + 1 / 2
  odd : n % 2 = 1 → n - 1 / 2 < q ∧ q < n + 1 / 2

variable {em : ExtendedMantissa} {q : ℚ} {n : ℕ}

theorem Holds.bounds (h : Holds em q) : em.mantissa ≤ q ∧ q < em.mantissa + 1 := by
  obtain ⟨m, round, sticky⟩ := em
  cases round <;> cases sticky <;> simp only [Holds] at h
  · exact ⟨h.ge, by linarith⟩
  · exact ⟨h.1.le, by linarith⟩
  · exact ⟨by linarith, by linarith⟩
  · exact ⟨by linarith, by linarith⟩

/-- Half of a number: the last bit of the whole part becomes the bit for the half. -/
theorem Holds.shiftRightOne (h : Holds em q) : Holds em.shiftRightOne (q / 2) := by
  obtain ⟨m, round, sticky⟩ := em
  have hsplit : (m : ℚ) = 2 * (m / 2 : ℕ) + (m % 2 : ℕ) := by
    exact_mod_cast (Nat.div_add_mod m 2).symm
  change Holds ⟨m / 2, m % 2 != 0, round || sticky⟩ (q / 2)
  generalize m / 2 = half at hsplit
  rcases Nat.mod_two_eq_zero_or_one m with hm | hm <;> rw [hm] at hsplit ⊢ <;>
    cases round <;> cases sticky <;> dsimp only [Holds] at h ⊢ <;> push_cast at hsplit <;>
    simp only [bne_self_eq_false, Nat.reduceBNe, Bool.or_self, Bool.or_true, Bool.or_false] <;>
    first
    | linarith
    | exact ⟨by linarith, by linarith⟩

theorem Holds.shiftRight (h : Holds em q) (k : ℕ) : Holds (em >>> k) (q / 2 ^ k) := by
  change Holds (k.repeat ExtendedMantissa.shiftRightOne em) _
  induction k with
  | zero => simpa [Nat.repeat] using h
  | succ k ih =>
    have hstep := ih.shiftRightOne
    rwa [div_div, ← pow_succ] at hstep

/-- A held number is rounded to the nearest whole one. -/
theorem Holds.roundedMantissa (h : Holds em q) (hn : Nearest q n) : em.roundedMantissa = n := by
  obtain ⟨hlow, hhigh, hodd⟩ := hn
  obtain ⟨m, round, sticky⟩ := em
  have hunder : ∀ {a b : ℕ}, (a : ℚ) < b + 1 → a ≤ b := fun h => by
    exact Nat.lt_succ_iff.mp (by exact_mod_cast h)
  cases round <;> cases sticky <;> simp only [Holds] at h <;>
    simp only [ExtendedMantissa.roundedMantissa, ExtendedMantissa.accuracy,
      Accuracy.roundToNearestEven]
  · exact Nat.le_antisymm (hunder (by linarith)) (hunder (by linarith))
  · exact Nat.le_antisymm (hunder (by linarith)) (hunder (by linarith))
  · -- Halfway: of the two neighbours only the even one is nearest.
    have hle : m ≤ n := hunder (by linarith)
    have hge : n ≤ m + 1 := hunder (by push_cast; linarith)
    rcases Nat.mod_two_eq_zero_or_one n with hp | hp
    · omega
    · obtain ⟨hl, hh⟩ := hodd hp
      have hlt : m < n := by
        have hne : m ≠ n := fun he => by
          subst he
          linarith
        omega
      have heq : n = m + 1 := by omega
      rw [heq] at hl
      push_cast at hl
      linarith
  · have hle : m + 1 ≤ n := hunder (by push_cast; linarith)
    have hge : n ≤ m + 1 := hunder (by push_cast; linarith)
    exact Nat.le_antisymm hle hge

theorem mantissa_ofMantissaAndAccuracy (n : ℕ) (accuracy : Accuracy) :
    (ExtendedMantissa.ofMantissaAndAccuracy n accuracy).mantissa = n := by
  rcases accuracy with _ | _ | _ | _ <;> rfl

theorem holds_exact (n : ℕ) : Holds (.ofMantissaAndAccuracy n .exact) n := rfl

/-- The whole part of a quotient, with what is left over. -/
theorem holds_quotient (n : ℕ) {d : ℕ} (hd : 0 < d) :
    Holds (.ofMantissaAndAccuracy (n / d) (accuracyOfFraction (n % d) d)) (n / d) := by
  have hd' : (0 : ℚ) < d := by exact_mod_cast hd
  have hsplit : (n : ℚ) = d * (n / d : ℕ) + (n % d : ℕ) := by
    exact_mod_cast (Nat.div_add_mod n d).symm
  have hquot : (n : ℚ) / d = (n / d : ℕ) + (n % d : ℕ) / d := by
    rw [eq_comm, ← sub_eq_zero]
    field_simp
    linarith
  have hlt : ((n % d : ℕ) : ℚ) / d < 1 := by
    rw [div_lt_one hd']
    exact_mod_cast Nat.mod_lt n hd
  rw [hquot]
  generalize n % d = r at hlt
  unfold accuracyOfFraction
  split
  · next hr => simp [Holds, ExtendedMantissa.ofMantissaAndAccuracy, hr]
  · next hr =>
    have hpos : (0 : ℚ) < r / d := div_pos (by exact_mod_cast Nat.pos_of_ne_zero hr) hd'
    cases hc : compare (2 * r) d <;>
      simp only [Holds, ExtendedMantissa.ofMantissaAndAccuracy]
    case lt =>
      have hcmp : (2 * r : ℚ) < d := by exact_mod_cast Nat.compare_eq_lt.mp hc
      have hhalf : (r : ℚ) / d < 1 / 2 := by
        rw [div_lt_div_iff₀ hd' two_pos]
        linarith
      exact ⟨by linarith, by linarith⟩
    case eq =>
      have hcmp : (2 * r : ℚ) = d := by exact_mod_cast Nat.compare_eq_eq.mp hc
      have hhalf : (r : ℚ) / d = 1 / 2 := by
        rw [div_eq_div_iff hd'.ne' two_ne_zero]
        linarith
      rw [hhalf]
    case gt =>
      have hcmp : (d : ℚ) < 2 * r := by exact_mod_cast Nat.compare_eq_gt.mp hc
      have hhalf : 1 / 2 < (r : ℚ) / d := by
        rw [div_lt_div_iff₀ two_pos hd']
        linarith
      exact ⟨by linarith, by linarith⟩

end Extended

/-- A mantissa with the exponent that a double has for it: as large as there is room for, unless
the exponent is the least one. -/
structure Canonical (m : ℕ) (e : ℤ) : Prop where
  pos : 0 < m
  fits : m < 2 ^ 53
  least : -1074 ≤ e
  full : 2 ^ 52 ≤ m ∨ e = -1074

/-- A real in the interval around `m * 2 ^ e`. Just above a power of two the next double below is
only half as far away. -/
structure Within (v : ℚ) (m : ℕ) (e : ℤ) : Prop where
  low : (m - 1 / 2) * 2 ^ e ≤ v
  lowest : m = 2 ^ 52 → -1074 < e → (m - 1 / 4) * 2 ^ e ≤ v
  high : v ≤ (m + 1 / 2) * 2 ^ e
  odd : m % 2 = 1 → (m - 1 / 2) * 2 ^ e < v ∧ v < (m + 1 / 2) * 2 ^ e

section Round

variable {v q : ℚ} {m mantissa : ℕ} {e exponent : ℤ}

theorem targetExponent_eq (total : ℤ) :
    Format.binary64.targetExponent total = max (total - 53) (-1074) := rfl

theorem zpow_two_pos (e : ℤ) : (0 : ℚ) < 2 ^ e := zpow_pos two_pos e

theorem Within.pos (h : Within v m e) (hc : Canonical m e) : 0 < v := by
  have hm : (1 : ℚ) ≤ m := by exact_mod_cast hc.pos
  have he := zpow_two_pos e
  have hlow : (1 / 2 : ℚ) * 2 ^ e ≤ (m - 1 / 2) * 2 ^ e :=
    mul_le_mul_of_nonneg_right (by linarith) he.le
  linarith [h.low]

/-- On the grid of its own exponent the mantissa is the nearest whole number. -/
theorem Within.nearest (h : Within v m e) : Nearest (v / 2 ^ e) m := by
  have he := zpow_two_pos e
  refine ⟨(le_div_iff₀ he).mpr h.low, (div_le_iff₀ he).mpr h.high, fun hodd => ?_⟩
  exact ⟨(lt_div_iff₀ he).mpr (h.odd hodd).1, (div_lt_iff₀ he).mpr (h.odd hodd).2⟩

/-- Below a power of two the grid is finer, and the power is still the nearest. -/
theorem Within.nearest_below (h : Within v (2 ^ 52) e) (he : -1074 < e) (hv : v < 2 ^ (e + 52)) :
    Nearest (v / 2 ^ (e - 1)) (2 ^ 53) := by
  have hpos := zpow_two_pos (e - 1)
  have hstep : (2 : ℚ) ^ e = 2 * 2 ^ (e - 1) := by
    rw [← zpow_one_add₀ two_ne_zero]
    congr 1
    omega
  have hgap : (2 : ℚ) ^ (e + 52) = 2 ^ 53 * 2 ^ (e - 1) := by
    rw [← zpow_natCast, ← zpow_add₀ two_ne_zero]
    congr 1
    omega
  have hlow := h.lowest rfl he
  rw [hstep] at hlow
  rw [hgap] at hv
  push_cast at hlow
  refine ⟨(le_div_iff₀ hpos).mpr ?_, (div_le_iff₀ hpos).mpr ?_, fun hodd => by norm_num at hodd⟩
  · push_cast
    nlinarith
  · push_cast
    nlinarith

/-- The exponent to which a number in the interval is shifted: that of the mantissa, or the one
below it, for a number just below a power of two. -/
theorem Within.target (h : Within v m e) (hc : Canonical m e) {total : ℤ} (hlow : v < 2 ^ total)
    (hhigh : 2 ^ (total - 1) ≤ v ∨ total ≤ -1021) :
    max (total - 53) (-1074) = e ∨
      max (total - 53) (-1074) = e - 1 ∧ m = 2 ^ 52 ∧ -1074 < e ∧ v < 2 ^ (e + 52) := by
  have he := zpow_two_pos e
  have hstrict : ∀ {a b : ℤ}, (2 : ℚ) ^ a < 2 ^ b → a < b := fun h =>
    (zpow_lt_zpow_iff_right₀ one_lt_two).mp h
  have hgrid (k : ℕ) : (2 : ℚ) ^ (e + k) = 2 ^ k * 2 ^ e := by
    rw [zpow_add₀ two_ne_zero, zpow_natCast, mul_comm]
  have hfits : (m : ℚ) ≤ 2 ^ 53 - 1 := by
    have hle : m + 1 ≤ 2 ^ 53 := hc.fits
    have hcast : (m : ℚ) + 1 ≤ 2 ^ 53 := by exact_mod_cast hle
    linarith
  have hbelow : total - 53 ≤ e := by
    rcases hhigh with hhigh | hhigh
    · have hup : v < 2 ^ (e + (53 : ℕ)) := by
        rw [hgrid]
        refine lt_of_le_of_lt h.high ?_
        exact mul_lt_mul_of_pos_right (by linarith) he
      have hlt := hstrict (hhigh.trans_lt hup)
      push_cast at hlt
      omega
    · have hleast := hc.least
      omega
  rcases hc.full with hfull | hleast
  · by_cases hpower : m = 2 ^ 52
    · by_cases hmin : -1074 < e
      · have hlow' := h.lowest hpower hmin
        have hdown : (2 : ℚ) ^ (e + (51 : ℕ)) < v := by
          rw [hgrid]
          refine lt_of_lt_of_le ?_ hlow'
          refine mul_lt_mul_of_pos_right ?_ he
          rw [hpower]
          norm_num
        have hlt := hstrict (hdown.trans hlow)
        push_cast at hlt
        by_cases hsame : total - 53 = e
        · left
          omega
        · right
          have htotal : total = e + 52 := by omega
          refine ⟨by omega, hpower, hmin, ?_⟩
          rwa [htotal] at hlow
      · left
        have hleast := hc.least
        omega
    · have hmore : (2 ^ 52 + 1 : ℚ) ≤ m := by
        have hle : 2 ^ 52 + 1 ≤ m := by omega
        exact_mod_cast hle
      have hdown : (2 : ℚ) ^ (e + (52 : ℕ)) < v := by
        rw [hgrid]
        refine lt_of_lt_of_le ?_ h.low
        exact mul_lt_mul_of_pos_right (by linarith) he
      have hlt := hstrict (hdown.trans hlow)
      have hleast := hc.least
      push_cast at hlt
      left
      omega
  · left
    omega

/-- A mantissa that has its exponent already is not shifted. -/
theorem shiftToTargetExponent_canonical (hm : m < 2 ^ 53) (he : -1074 ≤ e) :
    shiftToTargetExponent Format.binary64 m e .exact = (⟨m, false, false⟩, e) := by
  have hlog : m.log2 ≤ 52 := by
    by_cases hz : m = 0
    · simp [hz]
    · exact Nat.lt_succ_iff.mp ((Nat.log2_lt hz).mpr hm)
  have hshift : (Format.binary64.targetExponent (totalExponent m e) - e).toNat = 0 := by
    rw [targetExponent_eq, totalExponent]
    omega
  rw [shiftToTargetExponent, shiftToExponent, hshift]
  exact Prod.ext rfl (Int.add_zero e)

/-- How far a number reaches that is held at an exponent which needs no lower one. -/
theorem Holds.reach {accuracy : Accuracy} (hq : Holds (.ofMantissaAndAccuracy mantissa accuracy) q)
    (hexponent : exponent ≤ max (totalExponent mantissa exponent - 53) (-1074)) :
    q * 2 ^ exponent < 2 ^ totalExponent mantissa exponent ∧
      (2 ^ (totalExponent mantissa exponent - 1) ≤ q * 2 ^ exponent ∨
        totalExponent mantissa exponent ≤ -1021) := by
  have hpos := zpow_two_pos exponent
  obtain ⟨hlow, hhigh⟩ := hq.bounds
  rw [mantissa_ofMantissaAndAccuracy] at hlow hhigh
  have hgrid (k : ℕ) : (2 : ℚ) ^ ((k : ℤ) + exponent) = 2 ^ k * 2 ^ exponent := by
    rw [zpow_add₀ two_ne_zero, zpow_natCast]
  constructor
  · have hsize : ((mantissa : ℚ) + 1) ≤ 2 ^ (mantissa.log2 + 1) := by
      exact_mod_cast (Nat.lt_log2_self : mantissa < 2 ^ (mantissa.log2 + 1))
    have htotal : totalExponent mantissa exponent = ((mantissa.log2 + 1 : ℕ) : ℤ) + exponent := by
      rw [totalExponent]
      push_cast
      ring
    rw [htotal, hgrid]
    exact mul_lt_mul_of_pos_right (hhigh.trans_le hsize) hpos
  · by_cases hz : mantissa = 0
    · right
      rw [hz, totalExponent, Nat.log2_zero] at hexponent ⊢
      omega
    · left
      have hsize : (2 ^ mantissa.log2 : ℚ) ≤ mantissa := by exact_mod_cast Nat.log2_self_le hz
      have htotal : totalExponent mantissa exponent - 1 = (mantissa.log2 : ℤ) + exponent := by
        rw [totalExponent]
        ring
      rw [htotal, hgrid]
      exact mul_le_mul_of_nonneg_right (hsize.trans hlow) hpos.le

/-- The number `q * 2 ^ exponent`, held at an exponent that needs no lower one, is rounded to the
double whose interval it lies in. -/
theorem roundWithAccuracy_of_within {accuracy : Accuracy} (hc : Canonical m e)
    (hq : Holds (.ofMantissaAndAccuracy mantissa accuracy) q)
    (hexponent : exponent ≤ max (totalExponent mantissa exponent - 53) (-1074))
    (h : Within (q * 2 ^ exponent) m e) (sign : Sign) :
    roundWithAccuracy Format.binary64 sign mantissa exponent accuracy = .finite sign m e hc.pos := by
  obtain ⟨hbelow, habove⟩ := hq.reach hexponent
  have htarget := h.target hc hbelow habove
  rw [← targetExponent_eq] at hexponent htarget
  generalize ht : Format.binary64.targetExponent (totalExponent mantissa exponent) = t at *
  obtain ⟨k, rfl⟩ := Int.le.dest hexponent
  have hk : (exponent + k - exponent).toNat = k := by omega
  have hshift : shiftToTargetExponent Format.binary64 mantissa exponent accuracy =
      (ExtendedMantissa.ofMantissaAndAccuracy mantissa accuracy >>> k, exponent + k) := by
    rw [shiftToTargetExponent, ht, shiftToExponent, hk]
  have hvalue : q / 2 ^ k = q * 2 ^ exponent / 2 ^ (exponent + k : ℤ) := by
    rw [zpow_add₀ two_ne_zero, zpow_natCast]
    field_simp
  have hheld := hq.shiftRight k
  rw [hvalue] at hheld
  rw [roundWithAccuracy, hshift]
  rcases htarget with he | ⟨he, rfl, hmin, hv⟩
  · rw [he] at hheld ⊢
    dsimp only
    rw [hheld.roundedMantissa h.nearest, shiftToTargetExponent_canonical hc.fits hc.least]
    exact dif_neg hc.pos.ne'
  · have hup := shiftToTargetExponent_two_pow 1 (e := e - 1) (by omega)
    rw [he] at hheld ⊢
    dsimp only
    rw [hheld.roundedMantissa (h.nearest_below hmin hv), hup]
    simp

/-- A double is unpacked as it was packed. -/
theorem unpack_pack (hc : Canonical m e) (hmax : e ≤ 971) (sign : Sign) :
    (Float.Model.pack (.finite sign m e hc.pos)).unpack = .finite sign m e hc.pos := by
  obtain ⟨hpos, hfits, hleast, hfull⟩ := hc
  have hroom : ¬ 2 ^ 11 ≤ (e + 1075).toNat + 1 := by omega
  have hbias : Format.binary64.exponentBias = 1023 := by decide
  change unpack Format.binary64 (UnpackedFloat.pack Format.binary64 _) = _
  simp only [UnpackedFloat.pack]
  rw [biased_eq, if_neg hroom]
  split
  · next hlog =>
    have hnormal : 2 ^ 52 ≤ m := by
      have hlog : m.log2 = 52 := Nat.succ.inj hlog
      rw [← hlog]
      exact Nat.log2_self_le hpos.ne'
    have hexp : (BitVec.ofNat 11 (e + 1075).toNat).toNat = (e + 1075).toNat := by
      rw [BitVec.toNat_ofNat, Nat.mod_eq_of_lt (by omega)]
    have hall : BitVec.ofNat 11 (e + 1075).toNat ≠ -1#11 := by
      intro h
      have hsame := congrArg BitVec.toNat h
      rw [hexp] at hsame
      have hmax : (-1#11).toNat = 2047 := by decide
      omega
    have hnone : BitVec.ofNat 11 (e + 1075).toNat ≠ 0#11 := by
      intro h
      have hsame := congrArg BitVec.toNat h
      rw [hexp, BitVec.toNat_ofNat] at hsame
      omega
    have hmantissa : (1#1 ++ BitVec.ofNat 52 m).toNat = m := by
      have hone : (1#1).toNat <<< 52 = 2 ^ 52 := by decide
      have hrest : (BitVec.ofNat 52 m).toNat = m % 2 ^ 52 := BitVec.toNat_ofNat m 52
      rw [BitVec.toNat_append, ← Nat.shiftLeft_add_eq_or_of_lt (BitVec.isLt _), hone, hrest]
      omega
    simp only [UnpackedFloat.unpack, unpackMantissa_packComponents, unpackExponent_packComponents,
      unpackSign_packComponents, Sign.ofBitVec_toBitVec]
    rw [if_neg hall, if_neg hnone]
    simp only [hexp, hmantissa]
    congr 1
    rw [hbias]
    change ((e + 1075).toNat : ℤ) - (1023 + 52) = e
    omega
  · next hlog =>
    simp only [UnpackedFloat.unpack, unpackMantissa_packComponents, unpackExponent_packComponents,
      unpackSign_packComponents, Sign.ofBitVec_toBitVec]
    have hsmall : m < 2 ^ 52 := by
      by_contra hlarge
      refine hlog (congrArg (· + 1) ?_)
      exact (Nat.log2_eq_iff hpos.ne').mpr ⟨Nat.not_lt.mp hlarge, hfits⟩
    obtain rfl : e = -1074 := hfull.resolve_left (Nat.not_le.mpr hsmall)
    have hmantissa : (BitVec.ofNat 52 m).toNat = m := by
      rw [BitVec.toNat_ofNat, Nat.mod_eq_of_lt hsmall]
    have hsome : BitVec.ofNat 52 m ≠ 0#52 := by
      intro h
      have hzero := congrArg BitVec.toNat h
      rw [hmantissa] at hzero
      exact hpos.ne' hzero
    rw [if_neg (by decide), if_pos trivial, dif_neg hsome]
    simp only [hmantissa]
    rfl

/-- What a double is unpacked as is what it is packed from. -/
theorem eq_pack_unpack (x : Float) : x = .ofModel (.pack x.toModel.unpack) := by
  obtain ⟨⟨bits, hvalid⟩⟩ := x
  refine congrArg Float.ofModel ?_
  have hpack := pack_unpack_of_valid hvalid
  simp only [Float.Model.pack, Float.Model.unpack]
  congr 1
  exact UInt64.toBitVec_inj.mp hpack.symm

/-- A double is unpacked to a mantissa that has its exponent. -/
theorem canonical_of_unpack {x : Float.Model} {sign : Sign} {hm : 0 < m}
    (h : x.unpack = .finite sign m e hm) : Canonical m e ∧ e ≤ 971 := by
  have hbias : Format.binary64.exponentBias = 1023 := by decide
  obtain ⟨bits, _⟩ := x
  have hpow : (1#1).toNat <<< 52 = 2 ^ 52 := by decide
  change UnpackedFloat.unpack Format.binary64 bits.toBitVec = _ at h
  simp only [UnpackedFloat.unpack] at h
  rw [hbias] at h
  have hlow : (@unpackMantissa Format.binary64 bits.toBitVec).toNat < 2 ^ 52 := BitVec.isLt _
  have hhigh : (@unpackExponent Format.binary64 bits.toBitVec).toNat < 2 ^ 11 := BitVec.isLt _
  split at h
  · split at h <;> contradiction
  · next hfinite =>
    have hmax : (@unpackExponent Format.binary64 bits.toBitVec).toNat ≠ 2047 :=
      fun he => hfinite (BitVec.eq_of_toNat_eq he)
    split at h
    · next hzero =>
      split at h
      · contradiction
      · simp only [UnpackedFloat.finite.injEq] at h
        obtain ⟨_, rfl, rfl⟩ := h
        have hnone : (@unpackExponent Format.binary64 bits.toBitVec).toNat = 0 :=
          congrArg BitVec.toNat hzero
        exact ⟨⟨hm, by omega, by omega, Or.inr (by omega)⟩, by omega⟩
    · next hsome =>
      simp only [UnpackedFloat.finite.injEq] at h
      obtain ⟨_, rfl, rfl⟩ := h
      have hnormal : (@unpackExponent Format.binary64 bits.toBitVec).toNat ≠ 0 :=
        fun he => hsome (BitVec.eq_of_toNat_eq he)
      have hvalue : (1#1 ++ @unpackMantissa Format.binary64 bits.toBitVec).toNat =
          2 ^ 52 + (@unpackMantissa Format.binary64 bits.toBitVec).toNat := by
        rw [BitVec.toNat_append, ← Nat.shiftLeft_add_eq_or_of_lt (BitVec.isLt _), hpow]
      exact ⟨⟨hm, by omega, by omega, Or.inl (by omega)⟩, by omega⟩

theorem within_self (m : ℕ) (e : ℤ) : Within (m * 2 ^ e) m e := by
  have he := zpow_two_pos e
  exact ⟨by nlinarith, fun _ _ => by nlinarith, by nlinarith,
    fun _ => ⟨by nlinarith, by nlinarith⟩⟩

/-- With a mantissa of at least 53 bits no lower exponent is needed. -/
theorem le_target_of_large (h : 2 ^ 52 ≤ mantissa) (exponent : ℤ) :
    exponent ≤ max (totalExponent mantissa exponent - 53) (-1074) := by
  have hne : mantissa ≠ 0 := by omega
  have hlog : 52 ≤ mantissa.log2 := (Nat.le_log2 hne).mpr h
  rw [totalExponent]
  omega

end Round

section Operations

variable {m m₁ m₂ : ℕ} {e e₁ e₂ : ℤ}

/-- A product in the interval of a double is rounded to it. -/
theorem mul_of_within (hc : Canonical m e) (h₁ : 0 < m₁) (h₂ : 0 < m₂) (hlarge : 2 ^ 52 ≤ m₁ * m₂)
    (h : Within (m₁ * 2 ^ e₁ * (m₂ * 2 ^ e₂)) m e) :
    UnpackedFloat.mul Format.binary64 (.finite .positive m₁ e₁ h₁) (.finite .positive m₂ e₂ h₂) =
      .finite .positive m e hc.pos := by
  have hvalue : (m₁ * 2 ^ e₁ * (m₂ * 2 ^ e₂) : ℚ) = (m₁ * m₂ : ℕ) * 2 ^ (e₁ + e₂) := by
    rw [zpow_add₀ two_ne_zero]
    push_cast
    ring
  rw [hvalue] at h
  exact roundWithAccuracy_of_within hc (holds_exact _) (le_target_of_large hlarge _) h .positive

/-- A quotient in the interval of a double is rounded to it. -/
theorem div_of_within (hc : Canonical m e) (h₁ : 0 < m₁) (h₂ : 0 < m₂)
    (h : Within (m₁ * 2 ^ e₁ / (m₂ * 2 ^ e₂)) m e) :
    UnpackedFloat.div Format.binary64 (.finite .positive m₁ e₁ h₁) (.finite .positive m₂ e₂ h₂) =
      .finite .positive m e hc.pos := by
  let target := min (e₁ - e₂)
    (Format.binary64.targetExponent (totalExponent m₁ e₁ - totalExponent m₂ e₂))
  obtain ⟨shift, hshift⟩ := Int.le.dest (min_le_left (e₁ - e₂)
    (Format.binary64.targetExponent (totalExponent m₁ e₁ - totalExponent m₂ e₂)))
  have hcore : divCore Format.binary64 m₁ e₁ m₂ e₂ =
      (m₁ * 2 ^ shift / m₂, target, accuracyOfFraction (m₁ * 2 ^ shift % m₂) m₂) := by
    have hamount : (e₁ - e₂ - target).toNat = shift := by omega
    simp only [divCore]
    rw [hamount, Nat.shiftLeft_eq]
  have hvalue : (m₁ * 2 ^ e₁ / (m₂ * 2 ^ e₂) : ℚ) =
      (m₁ * 2 ^ shift : ℕ) / m₂ * 2 ^ target := by
    have hexp : e₁ = shift + target + e₂ := by omega
    have hm₂ : (m₂ : ℚ) ≠ 0 := by exact_mod_cast Nat.ne_of_gt h₂
    rw [hexp, zpow_add₀ two_ne_zero, zpow_add₀ two_ne_zero, zpow_natCast]
    push_cast
    field_simp
  have hexponent : target ≤ max (totalExponent (m₁ * 2 ^ shift / m₂) target - 53) (-1074) := by
    by_cases hleast : target ≤ -1074
    · exact hleast.trans (le_max_right _ _)
    -- Otherwise the shift makes the quotient large enough.
    refine le_target_of_large ((Nat.le_div_iff_mul_le h₂).mpr ?_) target
    have htarget : target ≤ totalExponent m₁ e₁ - totalExponent m₂ e₂ - 53 := by
      have hle : target ≤ max (totalExponent m₁ e₁ - totalExponent m₂ e₂ - 53) (-1074) :=
        min_le_right _ _
      omega
    rw [totalExponent, totalExponent] at htarget
    have hlog : m₂.log2 + 53 ≤ m₁.log2 + shift := by omega
    calc 2 ^ 52 * m₂ ≤ 2 ^ 52 * 2 ^ (m₂.log2 + 1) :=
          Nat.mul_le_mul_left _ Nat.lt_log2_self.le
      _ = 2 ^ (m₂.log2 + 53) := by rw [← pow_add]; congr 1; omega
      _ ≤ 2 ^ (m₁.log2 + shift) := Nat.pow_le_pow_right Nat.two_pos hlog
      _ = 2 ^ m₁.log2 * 2 ^ shift := pow_add _ _ _
      _ ≤ m₁ * 2 ^ shift := Nat.mul_le_mul_right _ (Nat.log2_self_le (Nat.ne_of_gt h₁))
  rw [hvalue] at h
  rw [UnpackedFloat.div, hcore]
  exact roundWithAccuracy_of_within hc (holds_quotient _ h₂) hexponent h .positive

/-- A whole number below `2 ^ 53` is a double as it is. -/
theorem exists_ofNat {n : ℕ} (hpos : 0 < n) (hn : n < 2 ^ 53) :
    ∃ m e, ∃ hc : Canonical m e, 2 ^ 52 ≤ m ∧ e ≤ 971 ∧ (m * 2 ^ e : ℚ) = n ∧
      UnpackedFloat.ofNat Format.binary64 n = .finite .positive m e hc.pos := by
  have hlog : n.log2 ≤ 52 := Nat.lt_succ_iff.mp ((Nat.log2_lt hpos.ne').mpr hn)
  obtain ⟨k, hk⟩ := Nat.le.dest hlog
  have hlow : 2 ^ 52 ≤ n * 2 ^ k := by
    calc 2 ^ 52 = 2 ^ n.log2 * 2 ^ k := by rw [← pow_add, hk]
      _ ≤ n * 2 ^ k := Nat.mul_le_mul_right _ (Nat.log2_self_le hpos.ne')
  have hhigh : n * 2 ^ k < 2 ^ 53 := by
    calc n * 2 ^ k < 2 ^ (n.log2 + 1) * 2 ^ k :=
          Nat.mul_lt_mul_of_pos_right Nat.lt_log2_self (Nat.two_pow_pos k)
      _ = 2 ^ 53 := by rw [← pow_add]; congr 1; omega
  have hc : Canonical (n * 2 ^ k) (-k) := ⟨by omega, hhigh, by omega, Or.inl hlow⟩
  have hvalue : ((n * 2 ^ k : ℕ) * 2 ^ (-k : ℤ) : ℚ) = n := by
    rw [zpow_neg, zpow_natCast]
    push_cast
    field_simp
  have htarget : Format.binary64.targetExponent (totalExponent n 0) = -k := by
    rw [targetExponent_eq, totalExponent]
    omega
  have hdecrease : decreaseExponent n 0 (-k : ℤ) = (n * 2 ^ k, (-k : ℤ)) := by
    have hamount : ((0 : ℤ) - -k).toNat = k := by omega
    simp only [decreaseExponent]
    rw [hamount, Nat.shiftLeft_eq, Int.zero_sub]
  have hwithin : Within ((n * 2 ^ k : ℕ) * 2 ^ (-k : ℤ)) (n * 2 ^ k) (-k) := within_self _ _
  have hround := roundWithAccuracy_of_within hc (holds_exact _)
    (le_target_of_large hlow (-k)) hwithin .positive
  refine ⟨n * 2 ^ k, -k, hc, hlow, by omega, hvalue, ?_⟩
  rw [UnpackedFloat.ofNat, UnpackedFloat.ofInt, UnpackedFloat.normalize]
  have hcompare : compare (n : ℤ) 0 = .gt := compare_gt_iff_gt.mpr (by omega)
  rw [hcompare]
  dsimp only
  rw [Int.toNat_natCast, UnpackedFloat.round, htarget, hdecrease]
  exact hround

end Operations

section Decimals

/-- The unpacked double stands for the positive number `value`. -/
def Denotes (x : UnpackedFloat) (value : ℕ) : Bool :=
  match x with
  | .finite .positive m e _ => 2 ^ 52 ≤ m &&
    if 0 ≤ e then m * 2 ^ e.toNat = value else m = value * 2 ^ (-e).toNat
  | _ => false

theorem exists_of_denotes {x : UnpackedFloat} {value : ℕ} (h : Denotes x value = true) :
    ∃ m e hm, x = .finite .positive m e hm ∧ 2 ^ 52 ≤ m ∧ (m * 2 ^ e : ℚ) = value := by
  unfold Denotes at h
  split at h
  · next m e hm =>
    rw [Bool.and_eq_true, decide_eq_true_eq] at h
    refine ⟨m, e, hm, rfl, h.1, ?_⟩
    have hvalue := h.2
    split at hvalue <;> rw [decide_eq_true_eq] at hvalue
    · next he =>
      obtain ⟨k, rfl⟩ := Int.eq_ofNat_of_zero_le he
      rw [zpow_natCast]
      exact_mod_cast hvalue
    · next he =>
      obtain ⟨k, hk⟩ := Int.eq_ofNat_of_zero_le (a := -e) (by omega)
      obtain rfl : e = -k := by omega
      rw [Int.neg_neg, Int.toNat_natCast] at hvalue
      rw [hvalue, zpow_neg, zpow_natCast]
      push_cast
      field_simp
  · contradiction

/-- The powers of ten in the table are exact. -/
theorem denotes_powerOfTen : ∀ e : Fin 23,
    Denotes (getElem Float.exactlyRepresentablePowersOfTen e (by decide +revert)).toModel.unpack
      (10 ^ e.val) = true := by
  decide +kernel

variable {digits m : ℕ} {exponent e : ℤ}

/-- A decimal in reach of a double has no exponent that is cut off on the way. -/
theorem Within.exponent_bounds (hc : Canonical m e) (hmax : e ≤ 971) (hd : 0 < digits)
    (h : Within (digits * 10 ^ exponent) m e) :
    exponent ≤ 2 ^ 11 ∧ -(2 ^ 11 + (digits.log2 : ℤ)) ≤ exponent := by
  have htwo : (1 : ℚ) < 2 := one_lt_two
  have hten := zpow_pos (by norm_num : (0 : ℚ) < 10) exponent
  have he := zpow_two_pos e
  constructor
  · by_contra hbig
    -- Even one digit would lie above all doubles.
    have hd' : (1 : ℚ) ≤ digits := by exact_mod_cast hd
    have hm : (m : ℚ) + 1 / 2 ≤ 2 ^ (53 : ℤ) := by
      have hle : (m : ℚ) + 1 ≤ 2 ^ 53 := by exact_mod_cast hc.fits
      have hcast : (2 : ℚ) ^ (53 : ℤ) = 2 ^ 53 := by norm_num
      linarith
    have hup : (digits * 10 ^ exponent : ℚ) ≤ 2 ^ (53 + e) := by
      rw [zpow_add₀ two_ne_zero]
      exact h.high.trans (mul_le_mul_of_nonneg_right hm he.le)
    obtain ⟨k, hk⟩ := Int.eq_ofNat_of_zero_le (a := exponent) (by omega)
    have hpow : (2 : ℚ) ^ exponent ≤ 10 ^ exponent := by
      rw [hk, zpow_natCast, zpow_natCast]
      exact pow_le_pow_left₀ zero_le_two (by norm_num) k
    have hless : (2 : ℚ) ^ (53 + e) < 2 ^ exponent := zpow_lt_zpow_right₀ htwo (by omega)
    nlinarith
  · by_contra hsmall
    -- All digits together would lie below half of the least double.
    have hdown : (2 : ℚ) ^ (-1075 : ℤ) ≤ digits * 10 ^ exponent := by
      have hm : (1 : ℚ) ≤ m := by exact_mod_cast hc.pos
      have hleast : (2 : ℚ) ^ (-1074 : ℤ) ≤ 2 ^ e := zpow_le_zpow_right₀ htwo.le hc.least
      have hhalf : (2 : ℚ) ^ (-1075 : ℤ) = 1 / 2 * 2 ^ (-1074 : ℤ) := by
        rw [one_div, ← zpow_neg_one, ← zpow_add₀ two_ne_zero]
        congr 1
      rw [hhalf]
      refine le_trans ?_ h.low
      exact mul_le_mul (by linarith) hleast (zpow_two_pos _).le (by linarith)
    have hdigits : (digits : ℚ) ≤ 2 ^ ((digits.log2 + 1 : ℕ) : ℤ) := by
      rw [zpow_natCast]
      exact_mod_cast (Nat.lt_log2_self (n := digits)).le
    obtain ⟨k, hk⟩ := Int.eq_ofNat_of_zero_le (a := -exponent) (by omega)
    have hpow : (10 : ℚ) ^ exponent ≤ 2 ^ exponent := by
      obtain rfl : exponent = -k := by omega
      rw [zpow_neg, zpow_neg, zpow_natCast, zpow_natCast]
      exact inv_anti₀ (by positivity) (pow_le_pow_left₀ zero_le_two (by norm_num) k)
    have hup : (digits * 10 ^ exponent : ℚ) ≤ 2 ^ (((digits.log2 + 1 : ℕ) : ℤ) + exponent) := by
      rw [zpow_add₀ two_ne_zero]
      exact mul_le_mul hdigits hpow hten.le (zpow_two_pos _).le
    have hless : (2 : ℚ) ^ (((digits.log2 + 1 : ℕ) : ℤ) + exponent) < 2 ^ (-1075 : ℤ) :=
      zpow_lt_zpow_right₀ htwo (by push_cast; omega)
    linarith

/-- The exact conversion of a decimal rounds it. -/
theorem ofScientific_of_within (hc : Canonical m e) (hmax : e ≤ 971) (hd : 0 < digits)
    (h : Within (digits * 10 ^ exponent) m e) :
    UnpackedFloat.ofScientific Format.binary64 digits exponent =
      .finite .positive m e hc.pos := by
  obtain ⟨hlarge, hsmall⟩ := h.exponent_bounds hc hmax hd
  have hbits : Format.binary64.mantissaBits = 53 := by decide
  rw [UnpackedFloat.ofScientific, dif_neg hd.ne', if_neg (by change ¬ 2 ^ 11 < exponent; omega),
    if_neg (by change ¬ exponent < -(2 ^ 11 + (digits.log2 : ℤ)); omega)]
  split
  · next hpos =>
    obtain ⟨k, rfl⟩ := Int.eq_ofNat_of_zero_le hpos
    have hvalue : ((digits <<< 53 : ℕ) * 2 ^ (-(53 : ℕ) : ℤ) * ((10 ^ k : ℕ) * 2 ^ (0 : ℤ)) : ℚ) =
        digits * 10 ^ (k : ℤ) := by
      rw [Nat.shiftLeft_eq, zpow_natCast, zpow_neg, zpow_natCast]
      push_cast
      field_simp
      norm_num
    have hlarge : 2 ^ 52 ≤ digits <<< 53 * 10 ^ k := by
      rw [Nat.shiftLeft_eq]
      have hten : 0 < 10 ^ k := Nat.pow_pos (by decide)
      nlinarith
    rw [← hvalue] at h
    exact mul_of_within hc _ _ hlarge h
  · next hneg =>
    have hvalue : (digits * 2 ^ (0 : ℤ) / ((10 ^ (-exponent).toNat : ℕ) * 2 ^ (0 : ℤ)) : ℚ) =
        digits * 10 ^ exponent := by
      obtain ⟨k, hk⟩ := Int.eq_ofNat_of_zero_le (a := -exponent) (by omega)
      obtain rfl : exponent = -k := by omega
      rw [hk, Int.toNat_natCast, zpow_neg, zpow_natCast]
      push_cast
      field_simp
    rw [← hvalue] at h
    exact div_of_within hc _ _ h

/-- Few digits are multiplied or divided by a power of ten, both of which are exact. -/
theorem ofScientific_fast (hc : Canonical m e) (hd : 0 < digits) (hfew : digits < 2 ^ 53)
    (hten : exponent.natAbs ≤ 22) (h : Within (digits * 10 ^ exponent) m e) :
    Float.ofScientific digits (exponent < 0) exponent.natAbs =
      .ofModel (.pack (.finite .positive m e hc.pos)) := by
  obtain ⟨m₁, e₁, hc₁, hlarge₁, hmax₁, hvalue₁, hof⟩ := exists_ofNat hd hfew
  obtain ⟨m₂, e₂, hm₂, htable, hlarge₂, hvalue₂⟩ :=
    exists_of_denotes (denotes_powerOfTen ⟨exponent.natAbs, by omega⟩)
  have hvalue₂ : (m₂ * 2 ^ e₂ : ℚ) = 10 ^ exponent.natAbs := by
    rw [hvalue₂]
    push_cast
    rfl
  have hdigits : digits.toUInt64.toFloat.toModel.unpack = .finite .positive m₁ e₁ hc₁.pos := by
    have hnat : digits.toUInt64.toNat = digits := by
      rw [UInt64.toNat_ofNat', Nat.mod_eq_of_lt (by omega)]
    change (Float.Model.pack (UnpackedFloat.ofNat Format.binary64 digits.toUInt64.toNat)).unpack = _
    rw [hnat, hof, unpack_pack hc₁ hmax₁]
  rw [Float.ofScientific, dif_pos ⟨hfew, hten⟩]
  dsimp only
  split
  · next hneg =>
    have hneg := of_decide_eq_true hneg
    have hvalue : (m₁ * 2 ^ e₁ / (m₂ * 2 ^ e₂) : ℚ) = digits * 10 ^ exponent := by
      obtain ⟨k, hk⟩ := Int.eq_ofNat_of_zero_le (a := -exponent) (by omega)
      obtain rfl : exponent = -k := by omega
      rw [hvalue₁, hvalue₂, zpow_neg, zpow_natCast, Int.natAbs_neg, Int.natAbs_natCast]
      field_simp
    rw [← hvalue] at h
    have hquot := div_of_within hc hc₁.pos hm₂ h
    rw [← hdigits, ← htable] at hquot
    exact congrArg (fun x => Float.ofModel (.pack x)) hquot
  · next hneg =>
    have hneg : ¬ exponent < 0 := by simpa using hneg
    have hvalue : (m₁ * 2 ^ e₁ * (m₂ * 2 ^ e₂) : ℚ) = digits * 10 ^ exponent := by
      obtain ⟨k, rfl⟩ := Int.eq_ofNat_of_zero_le (a := exponent) (by omega)
      rw [hvalue₁, hvalue₂, zpow_natCast, Int.natAbs_natCast]
    have hlarge : 2 ^ 52 ≤ m₁ * m₂ := hlarge₁.trans (Nat.le_mul_of_pos_right _ hm₂)
    rw [← hvalue] at h
    have hproduct := mul_of_within hc hc₁.pos hm₂ hlarge h
    rw [← hdigits, ← htable] at hproduct
    exact congrArg (fun x => Float.ofModel (.pack x)) hproduct

/-- A decimal from the interval of a double is read as this double. -/
theorem doubleOfDecimal_of_within (hc : Canonical m e) (hmax : e ≤ 971)
    (h : Within (digits * 10 ^ exponent) m e) :
    doubleOfDecimal digits exponent = .ofModel (.pack (.finite .positive m e hc.pos)) := by
  have hd : 0 < digits := by
    rcases Nat.eq_zero_or_pos digits with rfl | hd
    · simpa using h.pos hc
    · exact hd
  rw [doubleOfDecimal]
  by_cases hfast : digits < 2 ^ 53 ∧ exponent.natAbs ≤ 22
  · exact ofScientific_fast hc hd hfast.1 hfast.2 h
  · rw [Float.ofScientific, dif_neg hfast]
    have hexponent : (if decide (exponent < 0) = true then Int.negOfNat exponent.natAbs
        else Int.ofNat exponent.natAbs) = exponent := by
      by_cases hneg : exponent < 0
      · rw [if_pos (decide_eq_true hneg), Int.negOfNat_eq, Int.ofNat_eq_natCast]
        omega
      · rw [if_neg (by simpa using hneg), Int.ofNat_eq_natCast]
        omega
    dsimp only
    rw [hexponent]
    exact congrArg (fun x => Float.ofModel (.pack x)) (ofScientific_of_within hc hmax hd h)

end Decimals

end Storyboard.Decimal
