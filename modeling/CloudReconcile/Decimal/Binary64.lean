/-!
# Binary floating-point numbers of 64 bits

The finite numbers without their sign, as exact pairs: a mantissa below `2 ^ 53` and an exponent
of two.  Rounding goes to the nearest number, a tie to the even mantissa; what would be too large
is `none`.
-/

namespace CloudReconcile
namespace Decimal

/-- The number `mantissa * 2 ^ exponent`. -/
structure Binary64 where
  mantissa : Nat
  exponent : Int
deriving DecidableEq, Repr

namespace Binary64

def minExponent : Int := -1074

def maxExponent : Int := 971

def zero : Binary64 := ⟨0, minExponent⟩

/-- `numerator / denominator` in the grid of step `2 ^ exponent`, as a fraction again. -/
def scaled (numerator denominator : Nat) (exponent : Int) : Nat × Nat :=
  if 0 ≤ exponent then (numerator, denominator * Nat.pow 2 exponent.toNat)
  else (numerator * Nat.pow 2 (-exponent).toNat, denominator)

/-- The nearest integer to a fraction, a tie going to the even one. -/
def roundDiv (numerator denominator : Nat) : Nat :=
  let quotient := numerator / denominator
  let rest := 2 * (numerator % denominator)
  if denominator < rest then quotient + 1
  else if rest = denominator then quotient + quotient % 2
  else quotient

/-- The exponent whose grid gives the fraction a mantissa of 53 bits, or the least one. -/
def gridExponent (numerator denominator : Nat) : Int :=
  let guess : Int := (numerator.log2 : Int) - denominator.log2 - 52
  let (n, d) := scaled numerator denominator guess
  let exact := if n / d < Nat.pow 2 52 then guess - 1 else guess
  if exact < minExponent then minExponent else exact

/-- The nearest number to `numerator / denominator`. -/
def ofFraction (numerator denominator : Nat) : Option Binary64 :=
  if numerator = 0 then some zero
  else
    let exponent := gridExponent numerator denominator
    let (n, d) := scaled numerator denominator exponent
    let mantissa := roundDiv n d
    let rounded : Binary64 :=
      if mantissa = Nat.pow 2 53 then ⟨Nat.pow 2 52, exponent + 1⟩ else ⟨mantissa, exponent⟩
    if maxExponent < rounded.exponent then none else some rounded

def fraction (x : Binary64) : Nat × Nat :=
  if 0 ≤ x.exponent then (x.mantissa * Nat.pow 2 x.exponent.toNat, 1)
  else (x.mantissa, Nat.pow 2 (-x.exponent).toNat)

def mul (x y : Binary64) : Option Binary64 :=
  ofFraction (x.fraction.1 * y.fraction.1) (x.fraction.2 * y.fraction.2)

/-- The rounded quotient; the divisor is not zero. -/
def div (x y : Binary64) : Option Binary64 :=
  ofFraction (x.fraction.1 * y.fraction.2) (x.fraction.2 * y.fraction.1)

def add (x y : Binary64) : Option Binary64 :=
  ofFraction (x.fraction.1 * y.fraction.2 + y.fraction.1 * x.fraction.2)
    (x.fraction.2 * y.fraction.2)

example : ofFraction 1 10 = some ⟨7205759403792794, -56⟩ := by decide

end Binary64

end Decimal
end CloudReconcile
