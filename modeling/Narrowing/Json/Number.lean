import Narrowing.Binary64.Basic
import Narrowing.Json.SyntaxError

/-!
# Numbers

A numeral is taken in as an integer if it has neither a fraction nor an exponent and fits 64 bits,
and as a floating point value otherwise. Digits are kept as long as they make up a natural number
below `2 ^ 64`. Further digits before the point count as zeros, and further digits after it do not
count. The digits are then scaled by a power of ten, with one rounding for the digits, one for the
power and one for the scaling.
-/

namespace Narrowing.Json

/-- The value of a numeral. -/
inductive Number where
  /-- An integer of at most 64 bits. -/
  | integer (value : Int)
  /-- A floating point value, negative or not. -/
  | real (negative : Bool) (magnitude : Binary64)
  deriving Repr, DecidableEq, Inhabited

/-- A numeral, by its parts. -/
structure Numeral where
  /-- Whether it begins with a minus sign. -/
  negative : Bool := false
  /-- The digits before the point. -/
  whole : List Nat
  /-- The digits after the point; none if there is no point. -/
  fraction : List Nat := []
  /-- The exponent, if there is one. -/
  exponent? : Option Int := none
  deriving Repr, DecidableEq, Inhabited

namespace Numeral

/-- The least number that does not fit 64 bits. -/
def wordSize : Nat := Nat.pow 2 64

/-- Appends digits to a number as long as the result fits 64 bits. What is left of the digits is
returned beside the result. -/
def appendDigits (number : Nat) : List Nat → Nat × List Nat
  | [] => (number, [])
  | digit :: rest =>
    if number * 10 + digit < wordSize then appendDigits (number * 10 + digit) rest
    else (number, digit :: rest)

/-- The powers of ten up to the greatest one that the format holds are rounded one by one. -/
def powerOfTen? (exponent : Nat) : Option Binary64 := Binary64.ofNat? (Nat.pow 10 exponent)

/-- The greatest power of ten that a value is scaled by in one step. -/
def maxScale : Nat := 308

/-- Divides a value by a power of ten, in steps if the power is large. -/
def scaleDown? (value : Binary64) (exponent : Nat) : Option Binary64 :=
  if exponent ≤ maxScale then do value.div? (← powerOfTen? exponent)
  else if value.isZero then some value
  else do scaleDown? (← value.div? (← powerOfTen? maxScale)) (exponent - maxScale)
termination_by exponent
decreasing_by simp only [maxScale] at *; omega

/-- Scales a value by a power of ten. -/
def scale? (value : Binary64) : Int → Option Binary64
  | .ofNat exponent =>
    if exponent ≤ maxScale then do value.mul? (← powerOfTen? exponent)
    else if value.isZero then some value
    else none
  | .negSucc exponent => scaleDown? value (exponent + 1)

/-- The value of digits that are scaled by a power of ten. -/
def real? (negative : Bool) (digits : Nat) (exponent : Int) : Option Number := do
  return .real negative (← scale? (← Binary64.ofNat? digits) exponent)

/-- The value of a numeral, unless it is too large. -/
def value? (numeral : Numeral) : Option Number :=
  let (digits, dropped) := appendDigits 0 numeral.whole
  if numeral.fraction.isEmpty && numeral.exponent?.isNone && dropped.isEmpty then
    if !numeral.negative then some (.integer digits)
    else if 0 < digits ∧ digits ≤ wordSize / 2 then some (.integer (-digits))
    else real? true digits 0
  else
    let (digits, unused) := appendDigits digits numeral.fraction
    let kept : Int := numeral.fraction.length - unused.length
    real? numeral.negative digits (dropped.length - kept + numeral.exponent?.getD 0)

end Numeral

/-- A numeral as a text holds it, sound or not. -/
inductive NumberLexeme where
  /-- A sound numeral. -/
  | sound (numeral : Numeral)
  /-- The text ends within the numeral. -/
  | cutOff
  /-- The numeral is malformed. -/
  | malformed
  deriving Repr, DecidableEq, Inhabited

namespace NumberLexeme

/-- Takes in a number. -/
def value : NumberLexeme → Except SyntaxError Number
  | .sound numeral =>
    match numeral.value? with
    | some number => .ok number
    | none => .error .numberTooLarge
  | .cutOff => .error .valueCutOff
  | .malformed => .error .numberMalformed

/-- Passes over a number, of any size. -/
def pass : NumberLexeme → Except SyntaxError Unit
  | .sound _ => .ok ()
  | .cutOff | .malformed => .error .numberMalformed

end NumberLexeme

end Narrowing.Json
