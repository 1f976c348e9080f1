import Mathlib.Data.List.Chain
import Mathlib.Data.List.Forall2
import Narrowing.Proofs.Json.Spelling

/-!
# Lexemes

What a text of the format consists of, apart from the blanks: marks, words, numbers and strings. A
text spells out a list of lexemes if it spells them one after the other, with any blanks before,
between and after them. It is cut into tokens that tell its lexemes, provided that no number is
followed at once by something that would continue it.
-/

namespace Narrowing.Json

/-- The characters that have a meaning by themselves. -/
inductive Mark where
  /-- An opening bracket. -/
  | openArray
  /-- A closing bracket. -/
  | closeArray
  /-- An opening brace. -/
  | openObject
  /-- A closing brace. -/
  | closeObject
  /-- A comma. -/
  | comma
  /-- A colon. -/
  | colon
  deriving Repr, DecidableEq, Inhabited

/-- The character of a mark. -/
def Mark.character : Mark → Char
  | .openArray => '['
  | .closeArray => ']'
  | .openObject => '\x7b'
  | .closeObject => '\x7d'
  | .comma => ','
  | .colon => ':'

/-- The token of a mark. -/
def Mark.token : Mark → Token
  | .openArray => .openArray
  | .closeArray => .closeArray
  | .openObject => .openObject
  | .closeObject => .closeObject
  | .comma => .comma
  | .colon => .colon

/-- The letters of a word. -/
def Word.letters : Word → List Char
  | .null => ['n', 'u', 'l', 'l']
  | .bool true => ['t', 'r', 'u', 'e']
  | .bool false => ['f', 'a', 'l', 's', 'e']

/-- A mark, a word, a number or a string. -/
inductive Lexeme where
  /-- A mark. -/
  | mark (mark : Mark)
  /-- A word. -/
  | word (word : Word)
  /-- A number. -/
  | number (value : Number)
  /-- A string. -/
  | string (value : String)
  deriving Repr, DecidableEq, Inhabited

namespace Lexeme

/-- A text spells a lexeme. A number may be spelled by any numeral of its value. -/
def SpelledBy : Lexeme → List Char → Prop
  | .mark sign, text => text = [sign.character]
  | .word known, text => text = known.letters
  | .number value, text =>
    ∃ numeral : Numeral, numeral.SpelledBy text ∧ numeral.value? = some value
  | .string value, text => ∃ body, SpellsString value.toList body ∧ text = '"' :: (body ++ ['"'])

/-- A token tells a lexeme: taking the token in gives the lexeme. -/
def ToldBy : Lexeme → Token → Prop
  | .mark sign, token => token = sign.token
  | .word known, token => token = .word (.sound known)
  | .number value, token =>
    ∃ lexeme : NumberLexeme, lexeme.value = .ok value ∧ token = .number lexeme
  | .string value, token =>
    ∃ quotation : Quotation, quotation.value = .ok value ∧ token = .string quotation

/-- Whether a lexeme is a number. -/
def isNumber : Lexeme → Bool
  | .number _ => true
  | .mark _ | .word _ | .string _ => false

/-- Whether a lexeme is a mark. -/
def isMark : Lexeme → Bool
  | .mark _ => true
  | .word _ | .number _ | .string _ => false

end Lexeme

/-- A text of blanks only. -/
def Blank (text : List Char) : Prop := ∀ c ∈ text, isBlank c = true

theorem Blank.append {blanks blanks' : List Char} (h : Blank blanks) (h' : Blank blanks') :
    Blank (blanks ++ blanks') :=
  fun c hc => (List.mem_append.mp hc).elim (h c) (h' c)

/-- A text spells lexemes one after the other, with blanks anywhere around them. -/
inductive SpellsOut : List Lexeme → List Char → Prop where
  /-- After the last lexeme there are only blanks. -/
  | nil {blanks : List Char} (hblanks : Blank blanks) : SpellsOut [] blanks
  /-- Before any lexeme there may be blanks. -/
  | cons {lexeme : Lexeme} {lexemes : List Lexeme} {blanks spelling text : List Char}
    (hblanks : Blank blanks) (hspelling : lexeme.SpelledBy spelling)
    (hrest : SpellsOut lexemes text) :
    SpellsOut (lexeme :: lexemes) (blanks ++ (spelling ++ text))

namespace SpellsOut

/-- Blanks may be put before a text. -/
theorem blanks_append {lexemes : List Lexeme} {blanks text : List Char} (hblanks : Blank blanks)
    (h : SpellsOut lexemes text) : SpellsOut lexemes (blanks ++ text) := by
  cases h with
  | nil hblanks' => exact .nil (hblanks.append hblanks')
  | cons hblanks' hspelling hrest =>
    rw [← List.append_assoc]
    exact .cons (hblanks.append hblanks') hspelling hrest

/-- Texts that are put together spell out what each of them does. -/
theorem append {lexemes lexemes' : List Lexeme} {text text' : List Char}
    (h : SpellsOut lexemes text) (h' : SpellsOut lexemes' text') :
    SpellsOut (lexemes ++ lexemes') (text ++ text') := by
  induction h with
  | nil hblanks => exact h'.blanks_append hblanks
  | cons hblanks hspelling _ ih =>
    simpa only [List.append_assoc, List.cons_append] using .cons hblanks hspelling ih

/-- The spelling of a lexeme spells it out. -/
theorem of_spelling {lexeme : Lexeme} {spelling : List Char}
    (hspelling : lexeme.SpelledBy spelling) : SpellsOut [lexeme] spelling := by
  have hblank : Blank [] := by simp [Blank]
  simpa using SpellsOut.cons hblank hspelling (.nil hblank)

theorem of_mark (sign : Mark) : SpellsOut [.mark sign] [sign.character] :=
  of_spelling (by simp only [Lexeme.SpelledBy])

theorem of_word (word : Word) : SpellsOut [.word word] word.letters :=
  of_spelling (by simp only [Lexeme.SpelledBy])

end SpellsOut

/-- In a list of lexemes every number is followed by a mark, if by anything. -/
def Divided (lexemes : List Lexeme) : Prop :=
  lexemes.IsChain fun lexeme next => lexeme.isNumber = true → next.isMark = true

theorem not_continues_of_isBlank {c : Char} (h : isBlank c = true) :
    c.isDigit = false ∧ c ≠ '.' ∧ c ≠ 'e' ∧ c ≠ 'E' := by
  simp only [isBlank, Bool.or_eq_true, decide_eq_true_eq] at h
  rcases h with ((rfl | rfl) | rfl) | rfl <;> decide

/-- No mark continues a numeral, and no blank does. -/
theorem SpellsOut.continuesNoNumeral {lexemes : List Lexeme} {text : List Char}
    (h : SpellsOut lexemes text) (hmark : ∀ lexeme ∈ lexemes.head?, lexeme.isMark = true) :
    ContinuesNoNumeral text := by
  intro c hc
  cases h with
  | nil hblanks => exact not_continues_of_isBlank (hblanks c (List.mem_of_mem_head? hc))
  | @cons lexeme lexemes blanks spelling text hblanks hspelling hrest =>
    cases blanks with
    | cons blank blanks =>
      obtain rfl : blank = c := by simpa using hc
      exact not_continues_of_isBlank (hblanks blank List.mem_cons_self)
    | nil =>
      have hmark' : lexeme.isMark = true := hmark lexeme rfl
      cases lexeme with
      | mark sign =>
        have hspelling : spelling = [sign.character] := hspelling
        obtain rfl : sign.character = c := by simpa [hspelling] using hc
        cases sign <;> decide
      | word | number | string => simp [Lexeme.isMark] at hmark'

theorem tokens_blank_append {blanks : List Char} (hblanks : Blank blanks) (text : List Char) :
    tokens (blanks ++ text) = tokens text := by
  induction blanks with
  | nil => rfl
  | cons c blanks ih =>
    rw [List.cons_append, tokens_cons_blank (hblanks c List.mem_cons_self),
      ih fun other hother => hblanks other (List.mem_cons_of_mem c hother)]

/-- No digit is a blank. -/
theorem isBlank_eq_false_of_isDigit {c : Char} (h : c.isDigit = true) : isBlank c = false := by
  by_contra hblank
  have hcontinues := not_continues_of_isBlank (Bool.not_eq_false _ ▸ hblank)
  simp [h] at hcontinues

/-- A digit begins a numeral. -/
theorem scanToken_of_isDigit {c : Char} (h : c.isDigit = true) (rest : List Char) :
    scanToken c rest = (scanUnsigned false (c :: rest)).map .number id := by
  unfold scanToken
  split <;> simp_all

/-- A numeral begins a token, which tells its value. -/
theorem tokens_numeral {numeral : Numeral} {spelling rest : List Char}
    (hspelling : numeral.SpelledBy spelling) (hrest : ContinuesNoNumeral rest) :
    tokens (spelling ++ rest) = .number (.sound numeral) :: tokens rest := by
  obtain ⟨whole, fraction, exponent, hwhole, hzero, hfraction, hexponent, rfl⟩ := hspelling
  have hscan := scanUnsigned_of_spells hwhole hzero hfraction hexponent hrest
  obtain ⟨c, whole, rfl, hdigit⟩ := hwhole.exists_cons
  cases hnegative : numeral.negative with
  | true =>
    rw [hnegative] at hscan
    simp only [if_true, List.cons_append, List.nil_append, List.append_assoc] at hscan ⊢
    rw [tokens_cons (by decide)]
    simp [scanToken, hscan]
  | false =>
    rw [hnegative] at hscan
    simp only [Bool.false_eq_true, if_false, List.cons_append, List.nil_append,
      List.append_assoc] at hscan ⊢
    rw [tokens_cons (isBlank_eq_false_of_isDigit hdigit), scanToken_of_isDigit hdigit, hscan]
    rfl

/-- A string begins a token, which tells its characters. -/
theorem tokens_string {value : String} {body : List Char} (hbody : SpellsString value.toList body)
    (rest : List Char) :
    ∃ quotation : Quotation, quotation.value = .ok value ∧
      tokens ('"' :: (body ++ ['"']) ++ rest) = .string quotation :: tokens rest := by
  obtain ⟨pieces, hscan, hcharacters⟩ := scanString_of_spells hbody rest
  refine ⟨⟨pieces, .closed⟩, ?_, ?_⟩
  · simp [Quotation.value, hcharacters, Except.map]
  · rw [List.cons_append, List.append_assoc, List.singleton_append, tokens_cons (by decide)]
    simp [scanToken, hscan]

/-- A mark is a token. -/
theorem tokens_mark (sign : Mark) (rest : List Char) :
    tokens (sign.character :: rest) = sign.token :: tokens rest := by
  cases sign <;> exact tokens_cons (by decide) rest

/-- A word begins a token. -/
theorem tokens_word (word : Word) (rest : List Char) :
    tokens (word.letters ++ rest) = .word (.sound word) :: tokens rest := by
  rcases word with _ | _ | _ <;>
    · rw [Word.letters, List.cons_append, tokens_cons (by decide)]
      simp [scanToken, scanWord]

/-- A lexeme begins a token that tells it. -/
theorem Lexeme.tokens_of_spelledBy {lexeme : Lexeme} {spelling rest : List Char}
    (hspelling : lexeme.SpelledBy spelling)
    (hrest : lexeme.isNumber = true → ContinuesNoNumeral rest) :
    ∃ token, lexeme.ToldBy token ∧ tokens (spelling ++ rest) = token :: tokens rest := by
  cases lexeme with
  | mark sign =>
    obtain rfl : spelling = [sign.character] := hspelling
    exact ⟨sign.token, rfl, tokens_mark sign rest⟩
  | word known =>
    obtain rfl : spelling = known.letters := hspelling
    exact ⟨.word (.sound known), rfl, tokens_word known rest⟩
  | number value =>
    obtain ⟨numeral, hnumeral, hvalue⟩ := hspelling
    exact ⟨.number (.sound numeral), ⟨_, by simp [NumberLexeme.value, hvalue], rfl⟩,
      tokens_numeral hnumeral (hrest rfl)⟩
  | string value =>
    obtain ⟨body, hbody, rfl⟩ := hspelling
    obtain ⟨quotation, hvalue, htokens⟩ := tokens_string hbody rest
    exact ⟨.string quotation, ⟨quotation, hvalue, rfl⟩, htokens⟩

/-- The tokens of a text tell the lexemes that it spells out. -/
theorem SpellsOut.toldBy_tokens {lexemes : List Lexeme} {text : List Char}
    (h : SpellsOut lexemes text) (hdivided : Divided lexemes) :
    List.Forall₂ Lexeme.ToldBy lexemes (tokens text) := by
  induction h with
  | @nil blanks hblanks =>
    have htokens := tokens_blank_append hblanks []
    rw [List.append_nil, tokens_nil] at htokens
    rw [htokens]
    exact .nil
  | @cons lexeme lexemes blanks spelling text hblanks hspelling hrest ih =>
    rw [Divided, List.isChain_cons] at hdivided
    obtain ⟨token, htold, htokens⟩ := Lexeme.tokens_of_spelledBy hspelling fun hnumber =>
      hrest.continuesNoNumeral fun next hnext => hdivided.1 next hnext hnumber
    rw [tokens_blank_append hblanks, htokens]
    exact .cons htold (ih hdivided.2)

end Narrowing.Json
