import Storyboard.Decimal.Layout

/-!
# The shortest decimal that reads back

The reals that round to a double form an interval around it, whose ends belong
to it when the mantissa is even. For one digit, two digits and so on, the two
neighbours of the double on that decimal grid are tried; the first grid with a
neighbour in the interval gives the digits, and of two such neighbours the
nearer is taken.
-/

namespace Storyboard.Decimal

-- Powers are those of the core library, whatever else is imported.
attribute [local instance (high)] instPowNat instNatPowNat

/-- The power of ten of the first digit of `n / d`. -/
def magnitude (n d : Nat) : Int :=
  let guess : Int := (digitsOf n).length - (digitsOf d).length
  let reached :=
    match guess with
    | .ofNat g => decide (10 ^ g * d ≤ n)
    | .negSucc g => decide (d ≤ n * 10 ^ (g + 1))
  if reached then guess else guess - 1

/-- The smallest mantissa of a double in normal form. -/
def leastNormalMantissa : Nat := 2 ^ (52 : Nat)

/-- The exponent shared by the subnormal doubles and the smallest normal ones. -/
def leastExponent : Int := -1074

/-- The interval of reals that round to a double, in units of a common denominator. -/
structure RoundingInterval where
  low : Nat
  value : Nat
  high : Nat
  denominator : Nat
  /-- The two ends round to the double as well. -/
  closed : Bool

/-- The interval of `mantissa · 2 ^ exponent`. Just above a power of two the next
double below is only half as far away. -/
def RoundingInterval.of (mantissa : Nat) (exponent : Int) : RoundingInterval :=
  let (quarter, denominator) := binaryQuotient 1 (exponent - 2)
  let below := if mantissa = leastNormalMantissa ∧ leastExponent < exponent then 1 else 2
  { low := (4 * mantissa - below) * quarter
    value := 4 * mantissa * quarter
    high := (4 * mantissa + 2) * quarter
    denominator
    closed := mantissa % 2 = 0 }

/-- The interval in units of `10 ^ shift`. -/
def RoundingInterval.scale (interval : RoundingInterval) (shift : Int) : RoundingInterval :=
  match shift with
  | .ofNat s => { interval with denominator := interval.denominator * 10 ^ s }
  | .negSucc s =>
    let factor := 10 ^ (s + 1)
    { interval with
      low := interval.low * factor
      value := interval.value * factor
      high := interval.high * factor }

/-- The whole number `n` lies in the interval. -/
def RoundingInterval.contains (interval : RoundingInterval) (n : Nat) : Bool :=
  let scaled := n * interval.denominator
  if interval.closed then interval.low ≤ scaled && scaled ≤ interval.high
  else interval.low < scaled && scaled < interval.high

/-- The whole number nearest to the value among its two neighbours in the interval. -/
def RoundingInterval.neighbour? (interval : RoundingInterval) : Option Nat :=
  let below := interval.value / interval.denominator
  let nearest := roundQuotient interval.value interval.denominator
  let other := if nearest = below then below + 1 else below
  if interval.contains nearest then some nearest
  else if interval.contains other then some other
  else none

/-- Seventeen digits tell any two doubles apart. -/
def sufficientDigits : Nat := 17

/-- The digits of a positive double on the coarsest grid that reads back, starting
with grids of `count` digits and trying `more` finer ones. -/
def shortestFrom (interval : RoundingInterval) (first : Int) (count : Nat) : Nat → Scientific
  | 0 =>
    let shift := first + 1 - count
    let scaled := interval.scale shift
    .ofScaled (roundQuotient scaled.value scaled.denominator) shift
  | more + 1 =>
    let shift := first + 1 - count
    match (interval.scale shift).neighbour? with
    | some n => .ofScaled n shift
    | none => shortestFrom interval first (count + 1) more

/-- The fewest digits that read back as `mantissa · 2 ^ exponent`. -/
def shortestDigits (mantissa : Nat) (exponent : Int) : Scientific :=
  let interval := RoundingInterval.of mantissa exponent
  shortestFrom interval (magnitude interval.value interval.denominator) 1 (sufficientDigits - 1)

/-- Doubles are written positionally from `10 ^ (-4)` to `10 ^ 16`, whole ones with `.0`. -/
def doubleLayout : Layout := ⟨-4, 16, true, false, true⟩

/-- In records they are written so from `10 ^ (-5)` on, and exponents as short as can be. -/
def recordLayout : Layout := ⟨-5, 16, true, false, false⟩

/-- The shortest text that reads back as `x`. -/
def doubleText (x : Float) : String := doubleLayout.write shortestDigits x

end Storyboard.Decimal
