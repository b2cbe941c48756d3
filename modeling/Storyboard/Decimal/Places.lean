import Storyboard.Decimal.Shortest

/-!
# Fixed places and significant digits

Times are shown with one or two places, ratios with six significant digits, and
numbers by which the store looks something up with fifteen.
Either way the exact double is rounded once, a half to the even digit.
-/

namespace Storyboard.Decimal

-- Powers are those of the core library, whatever else is imported.
attribute [local instance (high)] instPowNat instNatPowNat

/-- The digits of `n`, padded on the left with zeros to at least `width`. -/
def paddedDigits (width n : Nat) : List Char :=
  let digits := digitsOf n
  List.replicate (width - digits.length) '0' ++ digits

theorem isDigit_paddedDigits {width n : Nat} {c : Char} (h : c ∈ paddedDigits width n) :
    c.isDigit = true := by
  rw [paddedDigits, List.mem_append] at h
  rcases h with hzero | hdigit
  · rw [List.eq_of_mem_replicate hzero]
    decide
  · exact isDigit_digitsOf hdigit

/-- `x` with exactly `places` digits after the point; `places` is not zero. -/
def fixedText (places : Nat) (x : Float) : String :=
  match Exact.ofFloat x with
  | .nan => "nan"
  | .infinite negative => if negative then "-inf" else "inf"
  | .finite negative mantissa exponent =>
    let (n, d) := binaryQuotient mantissa exponent
    let digits := paddedDigits (places + 1) (roundQuotient (n * 10 ^ places) d)
    let whole := digits.length - places
    let size := digits.take whole ++ '.' :: digits.drop whole
    String.ofList (if negative then '-' :: size else size)

/-- The first `count` digits of `mantissa · 2 ^ exponent`, rounded. -/
def significantDigits (count mantissa : Nat) (exponent : Int) : Scientific :=
  let (n, d) := binaryQuotient mantissa exponent
  let shift := magnitude n d + 1 - count
  let rounded :=
    match shift with
    | .ofNat s => roundQuotient n (d * 10 ^ s)
    | .negSucc s => roundQuotient (n * 10 ^ (s + 1)) d
  .ofScaled rounded shift

/-- Ratios have six significant digits. -/
def ratioDigits : Nat := 6

/-- Ratios are written positionally from `10 ^ (-4)` to `10 ^ 6`, whole ones without a point. -/
def ratioLayout : Layout := ⟨-4, 6, false, false, true⟩

/-- `x` with six significant digits. -/
def ratioText (x : Float) : String := ratioLayout.write (significantDigits ratioDigits) x

/-- Keys of the store have fifteen significant digits. -/
def keyDigits : Nat := 15

/-- Keys are written positionally from `10 ^ (-4)` to `10 ^ 15`, and show a point in every
case. -/
def keyLayout : Layout := ⟨-4, 15, true, true, true⟩

/-- `x` as a key of the store. Zero has no sign. -/
def keyText (x : Float) : String :=
  if x.isInf then (if x < 0 then "-Inf" else "Inf")
  else keyLayout.write (significantDigits keyDigits) (if x == 0 then 0 else x)

end Storyboard.Decimal
