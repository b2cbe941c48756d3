import Storyboard.Decimal.Exact
import Storyboard.Decimal.Fault

/-!
# Between doubles and whole numbers

A double is rounded to the nearest whole number, a half to the even one, or cut
toward zero. A whole number, or a quotient of two, becomes the nearest double.
-/

namespace Storyboard.Decimal

/-- The number with a sign. -/
def signed (negative : Bool) (n : Nat) : Int := if negative then -(n : Int) else n

/-- The whole number nearest to `x`; a half goes to the even one. -/
def nearestWhole (x : Float) : Except NumberFault Int :=
  match Exact.ofFloat x with
  | .nan => .error .wholeOfNaN
  | .infinite _ => .error .wholeOfInfinity
  | .finite negative mantissa exponent =>
    let (n, d) := binaryQuotient mantissa exponent
    .ok (signed negative (roundQuotient n d))

/-- `x` without its fractional part. -/
def truncate (x : Float) : Except NumberFault Int :=
  match Exact.ofFloat x with
  | .nan => .error .wholeOfNaN
  | .infinite _ => .error .wholeOfInfinity
  | .finite negative mantissa exponent =>
    let (n, d) := binaryQuotient mantissa exponent
    .ok (signed negative (n / d))

/-- `x` is a whole number. -/
def isWhole (x : Float) : Bool :=
  match Exact.ofFloat x with
  | .finite _ mantissa exponent =>
    let (n, d) := binaryQuotient mantissa exponent
    n % d = 0
  | _ => false

/-- The double nearest to a whole number. -/
def doubleOfInt (n : Int) : Except NumberFault Float :=
  let x := Float.ofInt n
  if x.isInf then .error .beyondDouble else .ok x

/-- The double nearest to `n / d`. A zero takes its sign from the signs of `n` and `d`. -/
def doubleOfQuotient (n d : Int) : Except NumberFault Float :=
  if d = 0 then .error .divisionByZero
  else
    let negative := decide (n < 0) != decide (d < 0)
    let size : Float :=
      match n.natAbs, d.natAbs with
      | a + 1, b + 1 =>
        .ofModel (.pack (.div .binary64
          (.finite .positive (a + 1) 0 (Nat.succ_pos a))
          (.finite .positive (b + 1) 0 (Nat.succ_pos b))))
      | _, _ => 0
    if size.isInf then .error .quotientBeyondDouble else .ok (if negative then -size else size)

end Storyboard.Decimal
