import Narrowing.Binary64.Basic

/-!
# Shortest decimals

The decimal with the fewest digits that rounds back to a given value; of several such decimals with
the same number of digits, the nearest one, and of two equally near ones the even one. The decimals
that round back to a value form an interval around it, whose ends belong to it when the significand
is even. On each decimal grid only the two neighbours of the value need to be looked at.
-/

namespace Narrowing

/-- The number `digits * 10 ^ exponent`. -/
structure Decimal where
  /-- The digits, as a natural number. -/
  digits : Nat
  /-- The power of ten that scales the digits. -/
  exponent : Int
  deriving Repr, DecidableEq, Inhabited

namespace Binary64

/-- Whether a quotient rounds back to a value other than zero. All is measured in quarters of the
value's last place: the interval reaches two quarters up, and two down, or one where the spacing
of the values changes. -/
def covers (x : Binary64) (numerator denominator : Nat) : Bool :=
  let below := if x.significand = Nat.pow 2 52 ∧ minExponent < x.exponent then 1 else 2
  let (n, d) := shiftQuotient numerator denominator (2 - x.exponent)
  let low := (4 * x.significand - below) * d
  let high := (4 * x.significand + 2) * d
  if x.significand % 2 = 0 then low ≤ n && n ≤ high else low < n && n < high

/-- The numerator and the denominator of `n / d * 10 ^ shift`. -/
def scaleByTen (n d : Nat) (shift : Int) : Nat × Nat :=
  (n * Nat.pow 10 shift.toNat, d * Nat.pow 10 (-shift).toNat)

/-- The greatest `e` with `10 ^ e ≤ x`, for a value other than zero. The logarithm to base two
gives it up to one. -/
def decimalExponent (x : Binary64) : Int :=
  let (n, d) := shiftQuotient x.significand 1 x.exponent
  let estimate := (((n.log2 : Int) - d.log2) * 30103).fdiv 100000
  let reaches (e : Int) : Bool := let (n, d) := scaleByTen n d (-e); d ≤ n
  if reaches (estimate + 1) then estimate + 1
  else if reaches estimate then estimate
  else estimate - 1

/-- The decimal with the given number of digits that is nearest to a value and rounds back to it,
if there is one. -/
def decimalOfLength? (x : Binary64) (length : Nat) : Option Decimal :=
  let unit := x.decimalExponent + 1 - length
  let (n, d) := shiftQuotient x.significand 1 x.exponent
  let (n, d) := scaleByTen n d (-unit)
  let lower := n / d
  let fits (digits : Nat) : Bool := let (n, d) := scaleByTen digits 1 unit; x.covers n d
  let near := roundQuotient n d
  let far := if near = lower then lower + 1 else lower
  if fits near then some ⟨near, unit⟩
  else if fits far then some ⟨far, unit⟩
  else none

/-- A decimal without zeros at the end of its digits. -/
def dropZeros : Nat → Decimal → Decimal
  | 0, decimal => decimal
  | steps + 1, ⟨digits, exponent⟩ =>
    if digits ≠ 0 ∧ digits % 10 = 0 then dropZeros steps ⟨digits / 10, exponent + 1⟩
    else ⟨digits, exponent⟩

/-- The shortest decimal that rounds back to a value. Seventeen digits are always enough. -/
def shortest (x : Binary64) : Decimal :=
  if x.isZero then ⟨0, 0⟩
  else
    let found := (List.range' 1 17).findSome? x.decimalOfLength?
    dropZeros 17 (found.getD ⟨0, 0⟩)

/-- Two hundredths have one digit, and a third has sixteen. -/
example : (ofQuotient? 2 100).map shortest = some ⟨2, -2⟩ ∧
    (ofQuotient? 1 3).map shortest = some ⟨3333333333333333, -16⟩ := by decide +kernel

/-- The least value above zero, and the largest finite value. -/
example : shortest ⟨1, -1074⟩ = ⟨5, -324⟩ ∧
    shortest ⟨2 ^ 53 - 1, 971⟩ = ⟨17976931348623157, 292⟩ := by decide +kernel

end Binary64

end Narrowing
