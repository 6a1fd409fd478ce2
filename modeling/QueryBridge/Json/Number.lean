import QueryBridge.Text.Numeral
import QueryBridge.Text.Double

/-!
# Which JSON numbers fit

A number is read as a significand of at most twenty digits times a power of ten.
It is out of range when the double nearest to the significand, times the double
nearest to the power, is past the largest finite double. Everything here is exact
arithmetic on natural numbers.
-/

set_option autoImplicit false

namespace QueryBridge.Json.Number

/-- The natural number with 53 significant bits nearest to `n`; a tie goes to the even one. -/
def roundToDouble (n : Nat) : Nat :=
  let excess := n.log2 + 1 - 53
  let unit := Nat.pow 2 excess
  let quotient := n / unit
  let rest := n % unit
  if unit < 2 * rest || (unit = 2 * rest && quotient % 2 = 1) then (quotient + 1) * unit
  else quotient * unit

/-- The largest power of ten that is a finite double. -/
def maxPower : Nat := 308

/-- A significand times a non-negative power of ten is past the finite doubles. -/
def exceedsDouble (significand power : Nat) : Bool :=
  significand ≠ 0 &&
    (maxPower < power || Text.Double.overflow ≤
        roundToDouble significand * roundToDouble (Nat.pow 10 power))

/-- The largest value that an exponent may spell before its digits are skipped unread. -/
def maxExponent : Nat := Nat.pow 2 31 - 1

end QueryBridge.Json.Number
