import Narrowing.Json.Number

/-!
# Scanning numerals

The numeral at the beginning of a text, which ends where no further character can belong to it.
Every step takes characters from the front of the text, so what is left is never longer.
-/

namespace Narrowing.Json

/-- The decimal digits at the beginning of a text, and the rest of the text. -/
def spanDigits : List Char → List Nat × List Char
  | [] => ([], [])
  | c :: rest =>
    if c.isDigit then
      let (digits, rest) := spanDigits rest
      ((c.toNat - '0'.toNat) :: digits, rest)
    else ([], c :: rest)

/-- What to make of a numeral that lacks a digit before the given rest of the text. -/
def NumberLexeme.digitMissing : List Char → NumberLexeme
  | [] => .cutOff
  | _ :: _ => .malformed

/-- The number that digits spell. -/
def digitsValue (digits : List Nat) : Nat := digits.foldl (fun n digit => n * 10 + digit) 0

/-- Reads the sign and the digits of an exponent, and puts it on a numeral. -/
def scanExponent (numeral : Numeral) (text : List Char) : NumberLexeme × List Char :=
  let (negative, text) : Bool × List Char :=
    match text with
    | '+' :: rest => (false, rest)
    | '-' :: rest => (true, rest)
    | _ => (false, text)
  match spanDigits text with
  | ([], rest) => (.digitMissing rest, rest)
  | (digits, rest) =>
    let size : Int := digitsValue digits
    (.sound { numeral with exponent? := some (if negative then -size else size) }, rest)

/-- Reads what may follow on the fraction of a numeral. -/
def scanAfterFraction (numeral : Numeral) : List Char → NumberLexeme × List Char
  | 'e' :: rest | 'E' :: rest => scanExponent numeral rest
  | rest => (.sound numeral, rest)

/-- Reads what may follow on the whole digits of a numeral. -/
def scanAfterWhole (numeral : Numeral) : List Char → NumberLexeme × List Char
  | '.' :: rest =>
    match spanDigits rest with
    | ([], rest) => (.digitMissing rest, rest)
    | (digits, rest) => scanAfterFraction { numeral with fraction := digits } rest
  | rest => scanAfterFraction numeral rest

/-- Reads the numeral at the beginning of a text, after its sign. A zero at the beginning has to be
the only digit before the point. -/
def scanUnsigned (negative : Bool) (text : List Char) : NumberLexeme × List Char :=
  match spanDigits text with
  | ([], rest) => (.digitMissing rest, rest)
  | (0 :: _ :: _, rest) => (.malformed, rest)
  | (digits, rest) => scanAfterWhole { negative, whole := digits } rest

theorem length_spanDigits_le (text : List Char) : (spanDigits text).2.length ≤ text.length := by
  induction text with
  | nil => simp [spanDigits]
  | cons c rest ih =>
    simp only [spanDigits]
    split
    · simpa using Nat.le_succ_of_le ih
    · simp

theorem length_scanExponent_le (numeral : Numeral) (text : List Char) :
    (scanExponent numeral text).2.length ≤ text.length := by
  unfold scanExponent
  split
  rename_i negative text' h
  have hlen : text'.length ≤ text.length := by
    split at h <;> simp_all
  have hspan := length_spanDigits_le text'
  split <;> simp_all <;> omega

theorem length_scanAfterFraction_le (numeral : Numeral) (text : List Char) :
    (scanAfterFraction numeral text).2.length ≤ text.length := by
  unfold scanAfterFraction
  split
  · exact Nat.le_succ_of_le (length_scanExponent_le ..)
  · exact Nat.le_succ_of_le (length_scanExponent_le ..)
  · exact Nat.le_refl _

theorem length_scanAfterWhole_le (numeral : Numeral) (text : List Char) :
    (scanAfterWhole numeral text).2.length ≤ text.length := by
  unfold scanAfterWhole
  split
  · rename_i rest
    have hspan := length_spanDigits_le rest
    split
    · simp_all; omega
    · rename_i digits rest' _ h
      have hafter := length_scanAfterFraction_le { numeral with fraction := digits } rest'
      simp_all; omega
  · exact length_scanAfterFraction_le ..

/-- Reading a numeral takes at least its leading digits. -/
theorem length_scanUnsigned_le (negative : Bool) (text : List Char) :
    (scanUnsigned negative text).2.length ≤ (spanDigits text).2.length := by
  unfold scanUnsigned
  split
  · simp_all
  · simp_all
  · rename_i digits rest _ _ h
    have hafter := length_scanAfterWhole_le { negative, whole := digits } rest
    simp_all

/-- A leading digit is taken. -/
theorem length_spanDigits_cons_le {c : Char} (h : c.isDigit) (rest : List Char) :
    (spanDigits (c :: rest)).2.length ≤ rest.length := by
  simpa [spanDigits, h] using length_spanDigits_le rest

end Narrowing.Json
