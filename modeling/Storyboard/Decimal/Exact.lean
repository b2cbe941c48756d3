/-!
# Doubles as exact numbers

A finite double is `± mantissa · 2 ^ exponent`; everything that prints or rounds
one works on these three parts in natural numbers. The two rounding functions
here are the only places where a quotient is rounded: both go to the nearest
whole number, and a half goes to the even one.
-/

namespace Storyboard.Decimal

-- Powers are those of the core library, whatever else is imported.
attribute [local instance (high)] instPowNat instNatPowNat

/-- The exact value of a double. Zero has mantissa `0` and keeps its sign. -/
inductive Exact where
  | nan
  | infinite (negative : Bool)
  | finite (negative : Bool) (mantissa : Nat) (exponent : Int)
deriving DecidableEq, Repr

/-- The sign is minus. -/
def isNegativeSign : Float.Model.UnpackedFloat.Sign → Bool
  | .negative => true
  | .positive => false

/-- The exact value of `x`. -/
def Exact.ofFloat (x : Float) : Exact :=
  match x.toModel.unpack with
  | .notANumber => .nan
  | .infinity sign => .infinite (isNegativeSign sign)
  | .zero sign => .finite (isNegativeSign sign) 0 0
  | .finite sign mantissa exponent _ => .finite (isNegativeSign sign) mantissa exponent

/-- The whole number nearest to `n / d`; a half goes to the even one. -/
def roundQuotient (n d : Nat) : Nat :=
  let q := n / d
  let r := n % d
  if 2 * r < d then q
  else if 2 * r = d then q + q % 2
  else q + 1

/-- `mantissa · 2 ^ exponent` as a quotient of natural numbers. -/
def binaryQuotient (mantissa : Nat) (exponent : Int) : Nat × Nat :=
  match exponent with
  | .ofNat e => (mantissa * 2 ^ e, 1)
  | .negSucc e => (mantissa, 2 ^ (e + 1))

theorem binaryQuotient_pos (mantissa : Nat) (exponent : Int) :
    0 < (binaryQuotient mantissa exponent).2 := by
  cases exponent with
  | ofNat e => exact Nat.one_pos
  | negSucc e => exact Nat.two_pow_pos (e + 1)

/-- The rounded quotient is at most half a unit away. -/
theorem roundQuotient_near (n : Nat) {d : Nat} (hd : 0 < d) :
    2 * n ≤ 2 * d * roundQuotient n d + d ∧ 2 * d * roundQuotient n d ≤ 2 * n + d := by
  have split := Nat.div_add_mod n d
  have small := Nat.mod_lt n hd
  generalize hq : n / d = q at split
  generalize hr : n % d = r at split small
  subst split
  have h2 : 2 * (d * q + r) = 2 * d * q + 2 * r := by rw [Nat.mul_add, Nat.mul_assoc]
  have h3 : 2 * d * (q + 1) = 2 * d * q + 2 * d := by rw [Nat.mul_add, Nat.mul_one]
  simp only [roundQuotient, hq, hr]
  split
  · omega
  · split
    · rcases Nat.mod_two_eq_zero_or_one q with h | h <;> simp only [h, Nat.add_zero] <;> omega
    · omega

end Storyboard.Decimal
