import Narrowing.Json.Token
import Narrowing.Proofs.Outcome

/-!
# Spelling strings and numbers

The same string can be spelled in many ways, since any character may be escaped, and so can the same
number. A string of a text is read as the characters that it spells, however it spells them; a
numeral is read as what it spells where nothing follows that would continue it.
-/

namespace Narrowing.Json

/-- A text spells a list of characters, as it stands between quotation marks. -/
inductive SpellsString : List Char → List Char → Prop where
  /-- No text spells no characters. -/
  | nil : SpellsString [] []
  /-- A character may stand for itself, unless it is a quotation mark, a backslash or a control. -/
  | plain {c : Char} {chars text : List Char} (hquote : c ≠ '"') (hbackslash : c ≠ '\\')
    (hcontrol : 0x20 ≤ c.toNat) (hrest : SpellsString chars text) :
    SpellsString (c :: chars) (c :: text)
  /-- Some characters have an escape of their own. -/
  | escape {c escaped : Char} {chars text : List Char} (hescape : simpleEscape? escaped = some c)
    (hrest : SpellsString chars text) : SpellsString (c :: chars) ('\\' :: escaped :: text)
  /-- A character of at most 16 bits may be escaped by its hexadecimal digits. -/
  | unit {c d₁ d₂ d₃ d₄ : Char} {chars text : List Char}
    (hunit : unitValue? d₁ d₂ d₃ d₄ = some c.toNat) (hrest : SpellsString chars text) :
    SpellsString (c :: chars) ('\\' :: 'u' :: d₁ :: d₂ :: d₃ :: d₄ :: text)
  /-- Any other character may be escaped by a pair of surrogates. -/
  | pair {high low : Nat} {d₁ d₂ d₃ d₄ d₅ d₆ d₇ d₈ : Char} {chars text : List Char}
    (hhigh : unitValue? d₁ d₂ d₃ d₄ = some high) (hlow : unitValue? d₅ d₆ d₇ d₈ = some low)
    (hisHigh : Quotation.isHighSurrogate high = true)
    (hisLow : Quotation.isLowSurrogate low = true) (hrest : SpellsString chars text) :
    SpellsString (Quotation.joinSurrogates high low :: chars)
      ('\\' :: 'u' :: d₁ :: d₂ :: d₃ :: d₄ :: '\\' :: 'u' :: d₅ :: d₆ :: d₇ :: d₈ :: text)

theorem SpellsString.append {chars chars' text text' : List Char} (h : SpellsString chars text)
    (h' : SpellsString chars' text') : SpellsString (chars ++ chars') (text ++ text') := by
  induction h with
  | nil => exact h'
  | plain hquote hbackslash hcontrol _ ih => exact .plain hquote hbackslash hcontrol ih
  | escape hescape _ ih => exact .escape hescape ih
  | unit hunit _ ih => exact .unit hunit ih
  | pair hhigh hlow hisHigh hisLow _ ih => exact .pair hhigh hlow hisHigh hisLow ih

/-- No character is half of a pair of surrogates. -/
theorem not_isSurrogate_toNat (c : Char) :
    Quotation.isHighSurrogate c.toNat = false ∧ Quotation.isLowSurrogate c.toNat = false := by
  have hvalid : c.toNat < 0xD800 ∨ 0xDFFF < c.toNat ∧ c.toNat < 0x110000 := c.valid
  simp only [Quotation.isHighSurrogate, Quotation.isLowSurrogate, Bool.and_eq_false_iff,
    decide_eq_false_iff_not]
  omega

namespace Quotation

/-- A unit that is a character by itself stands for it. -/
theorem characters_unit (ending : QuotationEnd) (c : Char) (rest : List Piece) :
    characters ending (.unit c.toNat :: rest) = do return c :: (← characters ending rest) := by
  obtain ⟨hhigh, hlow⟩ := not_isSurrogate_toNat c
  rw [characters.eq_def]
  simp only [hhigh, hlow, Bool.false_eq_true, if_false, Char.ofNat_toNat]

/-- A pair of units stands for the character that they make up. -/
theorem characters_pair (ending : QuotationEnd) {high low : Nat} (rest : List Piece)
    (hhigh : isHighSurrogate high = true) (hlow : isLowSurrogate low = true) :
    characters ending (.unit high :: .unit low :: rest) = do
      return joinSurrogates high low :: (← characters ending rest) := by
  have hnot : isLowSurrogate high = false := by
    simp only [isHighSurrogate, isLowSurrogate, Bool.and_eq_true, decide_eq_true_eq,
      Bool.and_eq_false_iff, decide_eq_false_iff_not] at hhigh ⊢
    omega
  simp only [characters, hhigh, hlow, hnot, Bool.false_eq_true, if_false, if_true]

end Quotation

/-- A string is read up to its quotation mark, as the characters that it spells. -/
theorem scanString_of_spells {chars text : List Char} (h : SpellsString chars text)
    (rest : List Char) :
    ∃ pieces, scanString (text ++ '"' :: rest) = (⟨pieces, .closed⟩, rest) ∧
      Quotation.characters .closed pieces = .ok chars := by
  induction h with
  | nil => exact ⟨[], rfl, rfl⟩
  | @plain c chars text hquote hbackslash hcontrol _ ih =>
    obtain ⟨pieces, hscan, hvalue⟩ := ih
    refine ⟨.char c :: pieces, ?_, ?_⟩
    · rw [List.cons_append, scanString]
      · simp [hscan, Nat.not_lt.mpr hcontrol, Quotation.extend]
      all_goals simp_all
    · simp [Quotation.characters, hvalue, ok_bind, pure, Except.pure]
  | @escape c escaped chars text hescape _ ih =>
    obtain ⟨pieces, hscan, hvalue⟩ := ih
    have hu : escaped ≠ 'u' := by
      rintro rfl
      simp [simpleEscape?] at hescape
    refine ⟨.char c :: pieces, ?_, ?_⟩
    · rw [List.cons_append, List.cons_append, scanString]
      · simp [hscan, hescape, Quotation.extend]
      all_goals simp_all
    · simp [Quotation.characters, hvalue, ok_bind, pure, Except.pure]
  | @unit c d₁ d₂ d₃ d₄ chars text hunit _ ih =>
    obtain ⟨pieces, hscan, hvalue⟩ := ih
    refine ⟨.unit c.toNat :: pieces, ?_, ?_⟩
    · simp only [List.cons_append, scanString, hscan, hunit, Option.map_some, Quotation.extend]
    · rw [Quotation.characters_unit, hvalue]
      rfl
  | @pair high low d₁ d₂ d₃ d₄ d₅ d₆ d₇ d₈ chars text hhigh hlow hisHigh hisLow _ ih =>
    obtain ⟨pieces, hscan, hvalue⟩ := ih
    refine ⟨.unit high :: .unit low :: pieces, ?_, ?_⟩
    · simp only [List.cons_append, scanString, hscan, hhigh, hlow, Option.map_some,
        Quotation.extend]
    · rw [Quotation.characters_pair .closed pieces hisHigh hisLow, hvalue]
      rfl

/-- A text that continues no numeral: it begins neither with a digit nor with a mark of one. -/
def ContinuesNoNumeral (text : List Char) : Prop :=
  ∀ c ∈ text.head?, c.isDigit = false ∧ c ≠ '.' ∧ c ≠ 'e' ∧ c ≠ 'E'

/-- A text spells decimal digits, of which there is at least one. -/
def SpellsDigits (digits : List Nat) (text : List Char) : Prop :=
  digits ≠ [] ∧ (∀ digit ∈ digits, digit < 10) ∧ text = digits.map Nat.digitChar

/-- A text spells the fraction of a numeral. -/
inductive SpellsFraction : List Nat → List Char → Prop where
  /-- There may be none. -/
  | none : SpellsFraction [] []
  /-- If there is one, digits follow on the point. -/
  | digits {digits : List Nat} {text : List Char} (hdigits : SpellsDigits digits text) :
    SpellsFraction digits ('.' :: text)

/-- A text spells the exponent of a numeral. -/
inductive SpellsExponent : Option Int → List Char → Prop where
  /-- There may be none. -/
  | none : SpellsExponent none []
  /-- If there is one, it may have a sign. -/
  | digits {mark : Char} {sign text : List Char} {digits : List Nat}
    (hmark : mark ∈ ['e', 'E']) (hsign : sign ∈ [[], ['+'], ['-']])
    (hdigits : SpellsDigits digits text) :
    SpellsExponent
      (some (if sign = ['-'] then -(digitsValue digits : Int) else digitsValue digits))
      (mark :: (sign ++ text))

/-- A text spells a numeral. A zero at the beginning has no further digits before the point. -/
def Numeral.SpelledBy (numeral : Numeral) (text : List Char) : Prop :=
  ∃ whole fraction exponent, SpellsDigits numeral.whole whole ∧
    (numeral.whole.head? = some 0 → numeral.whole = [0]) ∧
    SpellsFraction numeral.fraction fraction ∧ SpellsExponent numeral.exponent? exponent ∧
    text = (if numeral.negative then ['-'] else []) ++ (whole ++ (fraction ++ exponent))

/-- Digits are read up to where something else follows. -/
theorem spanDigits_of_spells {digits : List Nat} {text rest : List Char}
    (h : SpellsDigits digits text) (hrest : ∀ c ∈ rest.head?, c.isDigit = false) :
    spanDigits (text ++ rest) = (digits, rest) := by
  obtain ⟨-, hten, rfl⟩ := h
  induction digits with
  | nil =>
    cases rest with
    | nil => rfl
    | cons c rest => simp [spanDigits, hrest c (by simp)]
  | cons digit digits ih =>
    have hlt : digit < 10 := hten digit List.mem_cons_self
    have hvalue : (Nat.digitChar digit).toNat - 48 = digit := by
      rw [Nat.toNat_digitChar_of_lt_ten hlt, Nat.add_sub_cancel_left]
    have hspan := ih fun other hother => hten other (List.mem_cons_of_mem digit hother)
    simp [spanDigits, Nat.isDigit_digitChar, hlt, hspan, hvalue]

/-- Digits begin with a digit. -/
theorem SpellsDigits.exists_cons {digits : List Nat} {text : List Char}
    (h : SpellsDigits digits text) : ∃ c rest, text = c :: rest ∧ c.isDigit = true := by
  obtain ⟨hne, hten, rfl⟩ := h
  obtain ⟨digit, digits, rfl⟩ := List.exists_cons_of_ne_nil hne
  exact ⟨_, _, rfl, by simpa [Nat.isDigit_digitChar] using hten digit List.mem_cons_self⟩

/-- What may follow on the digits of a fraction begins neither with a digit nor with a point. -/
theorem SpellsExponent.head_append {exponent? : Option Int} {text rest : List Char}
    (h : SpellsExponent exponent? text) (hrest : ContinuesNoNumeral rest) :
    ∀ c ∈ (text ++ rest).head?, c.isDigit = false ∧ c ≠ '.' := by
  cases h with
  | none => exact fun c hc => ⟨(hrest c hc).1, (hrest c hc).2.1⟩
  | digits hmark => simp at hmark ⊢; rcases hmark with rfl | rfl <;> decide

/-- What may follow on the whole digits of a numeral begins with no digit. -/
theorem SpellsFraction.head_append {fraction : List Nat} {text rest : List Char}
    (h : SpellsFraction fraction text) (hrest : ∀ c ∈ rest.head?, c.isDigit = false) :
    ∀ c ∈ (text ++ rest).head?, c.isDigit = false := by
  cases h with
  | none => exact hrest
  | digits => simp

/-- The sign and the digits of an exponent are read as the exponent that they spell. -/
theorem scanExponent_of_spells (numeral : Numeral) {sign text rest : List Char}
    {digits : List Nat} (hsign : sign ∈ [[], ['+'], ['-']]) (hdigits : SpellsDigits digits text)
    (hrest : ContinuesNoNumeral rest) :
    scanExponent numeral (sign ++ text ++ rest) =
      (.sound { numeral with
        exponent? :=
          some (if sign = ['-'] then -(digitsValue digits : Int) else digitsValue digits) },
        rest) := by
  have hspan := spanDigits_of_spells hdigits fun c hc => (hrest c hc).1
  obtain ⟨digit, digits', rfl⟩ := List.exists_cons_of_ne_nil hdigits.1
  obtain ⟨c, text', rfl, hc⟩ := hdigits.exists_cons
  simp only [List.mem_cons, List.not_mem_nil, or_false] at hsign
  rcases hsign with rfl | rfl | rfl
  · have hplus : c ≠ '+' := by rintro rfl; simp at hc
    have hminus : c ≠ '-' := by rintro rfl; simp at hc
    simp_all [scanExponent]
  · simp_all [scanExponent]
  · simp_all [scanExponent]

/-- The exponent of a numeral is read if there is one. -/
theorem scanAfterFraction_of_spells (numeral : Numeral) {exponent? : Option Int}
    {text rest : List Char} (hnone : numeral.exponent? = none)
    (h : SpellsExponent exponent? text) (hrest : ContinuesNoNumeral rest) :
    scanAfterFraction numeral (text ++ rest) =
      (.sound { numeral with exponent? := exponent? }, rest) := by
  cases h with
  | none =>
    rw [← hnone, List.nil_append]
    unfold scanAfterFraction
    split
    · exact absurd rfl (hrest 'e' (by simp)).2.2.1
    · exact absurd rfl (hrest 'E' (by simp)).2.2.2
    · rfl
  | digits hmark hsign hdigits =>
    rw [List.cons_append]
    simp only [List.mem_cons, List.not_mem_nil, or_false] at hmark
    rcases hmark with rfl | rfl <;>
      exact scanExponent_of_spells numeral hsign hdigits hrest

/-- The fraction and the exponent of a numeral are read if there are any. -/
theorem scanAfterWhole_of_spells (numeral : Numeral) {fraction exponent rest : List Char}
    {digits : List Nat} {exponent? : Option Int} (hnoFraction : numeral.fraction = [])
    (hnone : numeral.exponent? = none) (hfraction : SpellsFraction digits fraction)
    (hexponent : SpellsExponent exponent? exponent) (hrest : ContinuesNoNumeral rest) :
    scanAfterWhole numeral (fraction ++ (exponent ++ rest)) =
      (.sound { numeral with fraction := digits, exponent? := exponent? }, rest) := by
  have hhead := hexponent.head_append hrest
  cases hfraction with
  | none =>
    have hafter := scanAfterFraction_of_spells numeral hnone hexponent hrest
    rw [List.nil_append, ← hnoFraction, ← hafter]
    unfold scanAfterWhole
    split
    · next hpoint => exact absurd rfl (hhead '.' (by simp [hpoint])).2
    · rfl
  | digits hdigits =>
    have hspan := spanDigits_of_spells hdigits fun c hc => (hhead c hc).1
    have hafter := scanAfterFraction_of_spells { numeral with fraction := digits } hnone hexponent
      hrest
    obtain ⟨digit, digits', rfl⟩ := List.exists_cons_of_ne_nil hdigits.1
    rw [List.cons_append, scanAfterWhole, hspan]
    exact hafter

/-- A numeral is read as what it spells, after its sign. -/
theorem scanUnsigned_of_spells {numeral : Numeral} {whole fraction exponent rest : List Char}
    (hwhole : SpellsDigits numeral.whole whole)
    (hzero : numeral.whole.head? = some 0 → numeral.whole = [0])
    (hfraction : SpellsFraction numeral.fraction fraction)
    (hexponent : SpellsExponent numeral.exponent? exponent) (hrest : ContinuesNoNumeral rest) :
    scanUnsigned numeral.negative (whole ++ (fraction ++ (exponent ++ rest))) =
      (.sound numeral, rest) := by
  have hspan := spanDigits_of_spells hwhole <| hfraction.head_append fun c hc =>
    (hexponent.head_append hrest c hc).1
  have hafter := scanAfterWhole_of_spells { negative := numeral.negative, whole := numeral.whole }
    rfl rfl hfraction hexponent hrest
  rw [scanUnsigned, hspan, ← hafter]
  split
  · next h => exact absurd (congrArg Prod.fst h) hwhole.1
  · next h => simp_all
  · next h => cases h; rfl

end Narrowing.Json
