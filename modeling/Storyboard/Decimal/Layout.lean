import Storyboard.Decimal.Exact
import Storyboard.Text.Digit

/-!
# Decimal digits on the page

A number that has been rounded to some digits is written positionally when its
size allows it, and with an exponent otherwise. A `Layout` fixes where positional
writing begins and ends, whether a whole number shows its point, and how an
exponent is written.
-/

namespace Storyboard.Decimal

/-- The decimal digits of a number, most significant first, with no leading zero
but for the number zero itself. -/
def digitsOf (n : Nat) : List Char := Nat.toDigits 10 n

theorem isDigit_digitsOf {n : Nat} {c : Char} (h : c ∈ digitsOf n) : c.isDigit = true :=
  Nat.isDigit_of_mem_toDigits (by decide) (by decide) h

/-- A whole number in decimal, with a minus sign if it is negative. -/
def wholeText (n : Int) : String :=
  match n with
  | .ofNat n => String.ofList (digitsOf n)
  | .negSucc n => String.ofList ('-' :: digitsOf (n + 1))

/-- The text without its tail of zeros. -/
def dropTrailingZeros (digits : List Char) : List Char :=
  (digits.reverse.dropWhile (· == '0')).reverse

/-- A positive number as digits and the power of ten of the first one. -/
structure Scientific where
  digits : List Char
  exponent : Int
deriving DecidableEq, Repr

/-- The number `n · 10 ^ shift`, without the zeros at its end. -/
def Scientific.ofScaled (n : Nat) (shift : Int) : Scientific :=
  let digits := digitsOf n
  ⟨dropTrailingZeros digits, (digits.length : Int) - 1 + shift⟩

/-- How digits are written. -/
structure Layout where
  /-- Below this power of ten, numbers have an exponent. -/
  positionalFrom : Int
  /-- From this power of ten on, they have one as well. -/
  exponentFrom : Int
  /-- A whole number ends in `.0`. -/
  showsPoint : Bool
  /-- So does a single digit before an exponent. -/
  pointsExponent : Bool
  /-- An exponent has a sign in every case, and at least two digits. -/
  padsExponent : Bool

/-- An exponent after its mark. -/
def Layout.exponentText (layout : Layout) (e : Int) : List Char :=
  let digits := digitsOf e.natAbs
  if layout.padsExponent then
    (if e < 0 then '-' else '+') :: (if digits.length < 2 then '0' :: digits else digits)
  else if e < 0 then '-' :: digits
  else digits

/-- The digits with a point after the first `whole` of them, padded with zeros. -/
def pointAfter (whole : Nat) (showsPoint : Bool) (digits : List Char) : List Char :=
  let before := digits.take whole ++ List.replicate (whole - digits.length) '0'
  match digits.drop whole with
  | [] => before ++ if showsPoint then ['.', '0'] else []
  | after => before ++ '.' :: after

/-- A positive number as text. -/
def Layout.render (layout : Layout) (number : Scientific) : List Char :=
  if layout.positionalFrom ≤ number.exponent ∧ number.exponent < layout.exponentFrom then
    match number.exponent with
    | .ofNat e => pointAfter (e + 1) layout.showsPoint number.digits
    | .negSucc e => '0' :: '.' :: List.replicate e '0' ++ number.digits
  else pointAfter 1 layout.pointsExponent number.digits ++ 'e' :: layout.exponentText number.exponent

/-- A double as text, given how the digits of a positive one are found. -/
def Layout.write (layout : Layout) (digits : Nat → Int → Scientific) (x : Float) : String :=
  match Exact.ofFloat x with
  | .nan => "nan"
  | .infinite negative => if negative then "-inf" else "inf"
  | .finite negative mantissa exponent =>
    let size :=
      if mantissa = 0 then '0' :: if layout.showsPoint then ['.', '0'] else []
      else layout.render (digits mantissa exponent)
    String.ofList (if negative then '-' :: size else size)

end Storyboard.Decimal
