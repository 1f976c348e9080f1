import Narrowing.Json.Number.Scan
import Narrowing.Json.Quotation

/-!
# Tokens

A text is cut into tokens before it is understood. Cutting never fails: a token says of itself
whether it is sound, so it is left to the reader of a token to reject it, or never to get there.
-/

namespace Narrowing.Json

/-- The words of the format. -/
inductive Word where
  /-- The word `null`. -/
  | null
  /-- The words `true` and `false`. -/
  | bool (value : Bool)
  deriving Repr, DecidableEq, Inhabited

/-- A word as a text holds it, sound or not. -/
inductive WordLexeme where
  /-- A sound word. -/
  | sound (word : Word)
  /-- The text ends within the word. -/
  | cutOff
  /-- The word continues differently. -/
  | misspelt
  deriving Repr, DecidableEq, Inhabited

/-- A token of the format. -/
inductive Token where
  /-- An opening bracket. -/
  | openArray
  /-- A closing bracket. -/
  | closeArray
  /-- An opening brace. -/
  | openObject
  /-- A closing brace. -/
  | closeObject
  /-- A comma. -/
  | comma
  /-- A colon. -/
  | colon
  /-- A word. -/
  | word (lexeme : WordLexeme)
  /-- A numeral. -/
  | number (lexeme : NumberLexeme)
  /-- A quoted string. -/
  | string (quotation : Quotation)
  /-- A character that begins no other token. -/
  | stray (c : Char)
  deriving Repr, DecidableEq, Inhabited

/-- The characters that separate tokens and mean nothing. -/
def isBlank (c : Char) : Bool := c = ' ' || c = '\t' || c = '\n' || c = '\r'

/-- Reads the remaining letters of a word. -/
def scanWord (word : Word) : List Char → List Char → WordLexeme × List Char
  | [], text => (.sound word, text)
  | _ :: _, [] => (.cutOff, [])
  | letter :: letters, c :: rest =>
    if c = letter then scanWord word letters rest else (.misspelt, rest)

/-- Reads the token that begins with the given character. -/
def scanToken (c : Char) (rest : List Char) : Token × List Char :=
  match c with
  | '[' => (.openArray, rest)
  | ']' => (.closeArray, rest)
  | '\x7b' => (.openObject, rest)
  | '\x7d' => (.closeObject, rest)
  | ',' => (.comma, rest)
  | ':' => (.colon, rest)
  | '"' => (scanString rest).map .string id
  | 'n' => (scanWord .null ['u', 'l', 'l'] rest).map .word id
  | 't' => (scanWord (.bool true) ['r', 'u', 'e'] rest).map .word id
  | 'f' => (scanWord (.bool false) ['a', 'l', 's', 'e'] rest).map .word id
  | '-' => (scanUnsigned true rest).map .number id
  | _ =>
    if c.isDigit then (scanUnsigned false (c :: rest)).map .number id else (.stray c, rest)

theorem length_scanWord_le (word : Word) (letters text : List Char) :
    (scanWord word letters text).2.length ≤ text.length := by
  fun_induction scanWord word letters text with
  | case1 text => exact Nat.le_refl _
  | case2 letter letters => exact Nat.le_refl _
  | case3 letters letter rest ih => exact Nat.le_succ_of_le ih
  | case4 letter letters c rest hne => exact Nat.le_succ _

/-- A token takes its first character. -/
theorem length_scanToken_le (c : Char) (rest : List Char) :
    (scanToken c rest).2.length ≤ rest.length := by
  have hnumber (negative : Bool) : (scanUnsigned negative rest).2.length ≤ rest.length :=
    Nat.le_trans (length_scanUnsigned_le ..) (length_spanDigits_le rest)
  unfold scanToken
  split <;> try simp [length_scanWord_le, length_scanString_le, hnumber]
  split
  · rename_i hdigit
    exact Nat.le_trans (length_scanUnsigned_le ..) (length_spanDigits_cons_le hdigit rest)
  · exact Nat.le_refl _

/-- The tokens of a text. -/
def tokens : List Char → List Token
  | [] => []
  | c :: rest =>
    if isBlank c then tokens rest
    else
      let scanned := scanToken c rest
      scanned.1 :: tokens scanned.2
termination_by text => text.length
decreasing_by
  · simp
  · exact Nat.lt_succ_of_le (length_scanToken_le c rest)

@[simp] theorem tokens_nil : tokens [] = [] := by rw [tokens]

/-- Blanks are dropped. -/
theorem tokens_cons_blank {c : Char} (h : isBlank c = true) (rest : List Char) :
    tokens (c :: rest) = tokens rest := by
  rw [tokens, if_pos h]

/-- Any other character begins a token. -/
theorem tokens_cons {c : Char} (h : isBlank c = false) (rest : List Char) :
    tokens (c :: rest) = (scanToken c rest).1 :: tokens (scanToken c rest).2 := by
  rw [tokens, if_neg (by simp [h])]

end Narrowing.Json
