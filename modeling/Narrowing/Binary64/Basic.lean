/-!
# Binary floating point of 64 bits

The non-negative finite values of the format, as exact multiples of powers of two. A quotient of
natural numbers is rounded to the nearest value, a tie to the one with the even significand;
products and quotients of values are rounded once. Values past the largest finite one do not exist
here.
-/

namespace Narrowing

/-- The value `significand * 2 ^ exponent`. The exponent is at least `-1074` and the significand
below `2 ^ 53`; it is at least `2 ^ 52` unless the exponent is the least one. -/
structure Binary64 where
  /-- The digits of the value. -/
  significand : Nat
  /-- The power of two that scales the significand. -/
  exponent : Int
  deriving Repr, DecidableEq, Inhabited

namespace Binary64

/-- The least exponent of the format. -/
def minExponent : Int := -1074

/-- The greatest exponent of the format. -/
def maxExponent : Int := 971

/-- The value zero. -/
def zero : Binary64 := ⟨0, minExponent⟩

/-- Whether the value is zero. -/
def isZero (x : Binary64) : Bool := x.significand = 0

/-- The numerator and the denominator of `numerator / denominator * 2 ^ shift`. -/
def shiftQuotient (numerator denominator : Nat) (shift : Int) : Nat × Nat :=
  (numerator * Nat.pow 2 shift.toNat, denominator * Nat.pow 2 (-shift).toNat)

/-- The natural number nearest to a quotient; of two equally near ones, the even one. -/
def roundQuotient (numerator denominator : Nat) : Nat :=
  let quotient := numerator / denominator
  let twice := 2 * (numerator % denominator)
  if twice < denominator then quotient
  else if denominator < twice then quotient + 1
  else quotient + quotient % 2

/-- The value nearest to a quotient, if the format reaches that far. -/
def ofQuotient? (numerator denominator : Nat) : Option Binary64 :=
  if numerator = 0 then some zero
  else
    let estimate : Int := (numerator.log2 : Int) - denominator.log2 - 53
    let low := max minExponent estimate
    let (n, d) := shiftQuotient numerator denominator (-low)
    let exponent := if d * Nat.pow 2 53 ≤ n then low + 1 else low
    let (n, d) := shiftQuotient numerator denominator (-exponent)
    let rounded := roundQuotient n d
    let value : Binary64 :=
      if rounded = Nat.pow 2 53 then ⟨Nat.pow 2 52, exponent + 1⟩ else ⟨rounded, exponent⟩
    if value.exponent ≤ maxExponent then some value else none

/-- The value nearest to a natural number. -/
def ofNat? (n : Nat) : Option Binary64 := ofQuotient? n 1

/-- The product of two values. -/
def mul? (x y : Binary64) : Option Binary64 :=
  let (n, d) := shiftQuotient (x.significand * y.significand) 1 (x.exponent + y.exponent)
  ofQuotient? n d

/-- The quotient of a value by another that is not zero. -/
def div? (x y : Binary64) : Option Binary64 :=
  let (n, d) := shiftQuotient x.significand y.significand (x.exponent - y.exponent)
  ofQuotient? n d

/-- One half lies between zero and one and is rounded to the even neighbour. -/
example : roundQuotient 1 2 = 0 ∧ roundQuotient 3 2 = 2 ∧ roundQuotient 5 2 = 2 := by decide

/-- One is a power of two. -/
example : ofNat? 1 = some ⟨2 ^ 52, -52⟩ := by decide +kernel

/-- A tenth is not exact. -/
example : ofQuotient? 1 10 = some ⟨7205759403792794, -56⟩ := by decide +kernel

/-- The largest finite value and the first number that is rounded past it. -/
example : ofNat? ((2 ^ 53 - 1) * 2 ^ 971) = some ⟨2 ^ 53 - 1, 971⟩ ∧
    ofNat? ((2 ^ 54 - 1) * 2 ^ 970) = none := by decide +kernel

end Binary64

end Narrowing
