/-!
Whether a decimal number exceeds the range of double precision, decided in whole numbers.
-/

namespace PageBuffer.Json

/-- The number with its bits below the 53 leading ones rounded off, a half to the even side. -/
def roundToDouble (number : Nat) : Nat :=
  let unit := 1 <<< (number.log2 + 1 - 53)
  let quotient := number / unit
  let remainder := number % unit
  if unit < 2 * remainder ∨ (unit = 2 * remainder ∧ quotient % 2 = 1) then
    (quotient + 1) * unit
  else
    quotient * unit

/-- Halfway between the largest double and the power of two above it.  From here on a product is
rounded to infinity. -/
def infinityBound : Nat :=
  (1 <<< 1024) - (1 <<< 970)

/-- `significand * 10 ^ exponent` is out of range: both factors are rounded to doubles, and their
product is rounded to infinity.  Powers of ten above `10 ^ 308` are out of range themselves. -/
def exceedsDouble (significand : Nat) (exponent : Int) : Bool :=
  if significand = 0 ∨ exponent ≤ 0 then
    false
  else if 308 < exponent then
    true
  else
    infinityBound ≤ roundToDouble significand * roundToDouble (Nat.pow 10 exponent.toNat)

@[simp]
theorem exceedsDouble_zero_exponent (significand : Nat) : exceedsDouble significand 0 = false := by
  simp [exceedsDouble]

end PageBuffer.Json
