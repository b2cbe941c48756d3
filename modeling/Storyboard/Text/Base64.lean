/-!
# Bytes as letters

Three bytes are four letters of six bits each. Where the bytes end inside of three,
equals signs fill up the letters.
-/

namespace Storyboard.Text

/-- The letters of the numbers below sixty-four. -/
def base64Letters : List Char :=
  "ABCDEFGHIJKLMNOPQRSTUVWXYZabcdefghijklmnopqrstuvwxyz0123456789+/".toList

/-- The letter of a number. -/
def base64Letter (n : Nat) : Char := base64Letters.getD (n % 64) 'A'

/-- Bytes as letters. -/
def base64 : List UInt8 → List Char
  | [] => []
  | [a] =>
    let n := a.toNat * 16
    [base64Letter (n / 64), base64Letter n, '=', '=']
  | [a, b] =>
    let n := (a.toNat * 256 + b.toNat) * 4
    [base64Letter (n / 4096), base64Letter (n / 64), base64Letter n, '=']
  | a :: b :: c :: rest =>
    let n := (a.toNat * 256 + b.toNat) * 256 + c.toNat
    base64Letter (n / 262144) :: base64Letter (n / 4096) :: base64Letter (n / 64) ::
      base64Letter n :: base64 rest

theorem length_base64 (bytes : List UInt8) :
    (base64 bytes).length = 4 * ((bytes.length + 2) / 3) := by
  induction bytes using base64.induct with
  | case1 => rfl
  | case2 => simp [base64]
  | case3 => simp [base64]
  | case4 a b c rest ih => simp [base64, ih]; omega

end Storyboard.Text
