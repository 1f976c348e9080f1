import Narrowing.Binary64.Shortest

/-!
# The text of decimals

A decimal is written with a point and at least one digit on either side of it, or, if it is very
large or very small, with one digit before the point and an exponent.
-/

namespace Narrowing

/-- The digits of a decimal with a point after the given number of them. Zeros fill up either
side, and there is at least one digit on each. -/
def Decimal.positional (digits : List Char) (point : Int) : String :=
  let zeros (n : Int) : List Char := List.replicate n.toNat '0'
  let whole :=
    if point ≤ 0 then ['0'] else digits.take point.toNat ++ zeros (point - digits.length)
  let fraction := zeros (-point) ++ digits.drop point.toNat
  String.ofList (whole ++ '.' :: if fraction.isEmpty then ['0'] else fraction)

/-- The digits of a decimal with a point after the first one and an exponent, which has a sign. -/
def Decimal.scientific (digits : List Char) (exponent : Int) : String :=
  let sign := if exponent < 0 then '-' else '+'
  let mantissa := digits.take 1 ++ if digits.length ≤ 1 then [] else '.' :: digits.drop 1
  String.ofList (mantissa ++ 'e' :: sign :: Nat.toDigits 10 exponent.natAbs)

/-- The text of a decimal. Leading digits from `10 ^ (-5)` up to `10 ^ 15` are written without an
exponent. -/
def Decimal.text (decimal : Decimal) : String :=
  if decimal.digits = 0 then "0.0"
  else
    let digits := Nat.toDigits 10 decimal.digits
    let exponent := decimal.exponent + digits.length - 1
    if -5 ≤ exponent ∧ exponent ≤ 15 then positional digits (exponent + 1)
    else scientific digits exponent

/-- Where the two ways of writing a decimal meet. -/
example : Decimal.text ⟨1, -5⟩ = "0.00001" ∧ Decimal.text ⟨15, -7⟩ = "1.5e-6" ∧
    Decimal.text ⟨25, -1⟩ = "2.5" ∧ Decimal.text ⟨1, 15⟩ = "1000000000000000.0" ∧
    Decimal.text ⟨12, 15⟩ = "1.2e+16" := by decide +kernel

end Narrowing
