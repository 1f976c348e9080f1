import Narrowing.Json.SyntaxError

/-!
# Quoted strings

A string is first split into pieces: characters, with the simple escapes resolved, and the 16-bit
units that `\u` escapes spell. Taking the string in joins pairs of surrogate units into characters
and refuses all other surrogates; passing over it only asks that it ends as it should.
-/

namespace Narrowing.Json

/-- A piece of a quoted string. -/
inductive Piece where
  /-- A character, written out or as a simple escape. -/
  | char (c : Char)
  /-- A unit of 16 bits, escaped by its four hexadecimal digits. -/
  | unit (value : Nat)
  deriving Repr, DecidableEq, Inhabited

/-- What ends a quoted string. -/
inductive QuotationEnd where
  /-- The closing quotation mark. -/
  | closed
  /-- The end of the text. -/
  | cutOff
  /-- A control character. -/
  | control
  /-- A backslash before a character that it does not escape. -/
  | unknownEscape
  /-- A `\u` escape with something else than four hexadecimal digits. -/
  | malformedUnit
  deriving Repr, DecidableEq, Inhabited

/-- What is wrong with an end. -/
def QuotationEnd.error? : QuotationEnd → Option SyntaxError
  | .closed => none
  | .cutOff => some .stringCutOff
  | .control => some .controlCharacter
  | .unknownEscape => some .escapeUnknown
  | .malformedUnit => some .escapeUnknown

/-- A quoted string as a text holds it, without its opening quotation mark. -/
structure Quotation where
  /-- What the string consists of. -/
  pieces : List Piece
  /-- How it ends. -/
  ending : QuotationEnd
  deriving Repr, DecidableEq, Inhabited

namespace Quotation

/-- Whether a unit is the first half of a pair. -/
def isHighSurrogate (value : Nat) : Bool := 0xD800 ≤ value && value < 0xDC00

/-- Whether a unit is the second half of a pair. -/
def isLowSurrogate (value : Nat) : Bool := 0xDC00 ≤ value && value < 0xE000

/-- The character that a pair of surrogates stands for. -/
def joinSurrogates (high low : Nat) : Char :=
  Char.ofNat (0x10000 + (high - 0xD800) * 0x400 + (low - 0xDC00))

/-- The error of a first half without a second one, where the string ends. A string that ends in
the middle of an escape may still have been about to complete the pair. -/
def unfinishedPair : QuotationEnd → SyntaxError
  | .cutOff => .stringCutOff
  | .malformedUnit => .escapeUnknown
  | .closed | .control | .unknownEscape => .pairUnfinished

/-- The characters that the pieces of a string stand for. -/
def characters (ending : QuotationEnd) : List Piece → Except SyntaxError (List Char)
  | [] =>
    match ending.error? with
    | none => .ok []
    | some error => .error error
  | .char c :: rest => do return c :: (← characters ending rest)
  | .unit value :: rest =>
    if isLowSurrogate value then .error .surrogateAlone
    else if isHighSurrogate value then
      match rest with
      | .unit second :: rest =>
        if isLowSurrogate second then do
          return joinSurrogates value second :: (← characters ending rest)
        else .error .surrogateAlone
      | .char _ :: _ => .error .pairUnfinished
      | [] => .error (unfinishedPair ending)
    else do return Char.ofNat value :: (← characters ending rest)

/-- Takes in a string. -/
def value (quotation : Quotation) : Except SyntaxError String :=
  (characters quotation.ending quotation.pieces).map String.ofList

/-- Passes over a string. -/
def pass (quotation : Quotation) : Except SyntaxError Unit :=
  match quotation.ending.error? with
  | none => .ok ()
  | some error => .error error

end Quotation

/-- The value of a hexadecimal digit. -/
def hexDigit? (c : Char) : Option Nat :=
  if c.isDigit then some (c.toNat - '0'.toNat)
  else if 'a' ≤ c ∧ c ≤ 'f' then some (c.toNat - 'a'.toNat + 10)
  else if 'A' ≤ c ∧ c ≤ 'F' then some (c.toNat - 'A'.toNat + 10)
  else none

/-- The character that a simple escape stands for. -/
def simpleEscape? : Char → Option Char
  | '"' => some '"'
  | '\\' => some '\\'
  | '/' => some '/'
  | 'b' => some '\x08'
  | 'f' => some '\x0c'
  | 'n' => some '\n'
  | 'r' => some '\r'
  | 't' => some '\t'
  | _ => none

/-- The unit that four hexadecimal digits spell. -/
def unitValue? (a b c d : Char) : Option Nat := do
  let high := (← hexDigit? a) * 16 + (← hexDigit? b)
  let low := (← hexDigit? c) * 16 + (← hexDigit? d)
  return high * 256 + low

/-- What ends a string at an escaped unit that fewer than four characters follow. If they take
fewer than four bytes the text counts as cut off, whatever they are. -/
def shortUnit (rest : List Char) : QuotationEnd :=
  if rest.foldl (fun bytes c => bytes + c.utf8Size) 0 < 4 then .cutOff else .malformedUnit

/-- Puts a piece before a string, if there is one, and else ends the string. -/
def Quotation.extend (piece? : Option Piece) (ending : QuotationEnd)
    (scanned : Quotation × List Char) : Quotation × List Char :=
  match piece? with
  | some piece => (⟨piece :: scanned.1.pieces, scanned.1.ending⟩, scanned.2)
  | none => (⟨[], ending⟩, scanned.2)

/-- Reads a quoted string, after its opening quotation mark. The rest that is returned beside a
string that does not end as it should has no meaning. -/
def scanString : List Char → Quotation × List Char
  | [] => (⟨[], .cutOff⟩, [])
  | '"' :: rest => (⟨[], .closed⟩, rest)
  | '\\' :: 'u' :: a :: b :: c :: d :: rest =>
    Quotation.extend ((unitValue? a b c d).map .unit) .malformedUnit (scanString rest)
  | '\\' :: 'u' :: rest => (⟨[], shortUnit rest⟩, rest)
  | '\\' :: c :: rest =>
    Quotation.extend ((simpleEscape? c).map .char) .unknownEscape (scanString rest)
  | '\\' :: [] => (⟨[], .cutOff⟩, [])
  | c :: rest =>
    Quotation.extend (if c.toNat < 0x20 then none else some (.char c)) .control (scanString rest)

theorem Quotation.length_extend (piece? : Option Piece) (ending : QuotationEnd)
    (scanned : Quotation × List Char) :
    (Quotation.extend piece? ending scanned).2.length = scanned.2.length := by
  cases piece? <;> rfl

/-- Reading a string never lengthens the text. -/
theorem length_scanString_le (text : List Char) :
    (scanString text).2.length ≤ text.length := by
  fun_induction scanString text with
  | case1 => exact Nat.le_refl _
  | case2 rest => exact Nat.le_succ _
  | case3 a b c d rest ih =>
    simp only [Quotation.length_extend, List.length_cons]
    omega
  | case4 rest => exact Nat.le_add_right _ 2
  | case5 c rest _ _ ih =>
    simp only [Quotation.length_extend, List.length_cons]
    omega
  | case6 => exact Nat.zero_le _
  | case7 c rest _ _ _ _ _ ih =>
    simp only [Quotation.length_extend, List.length_cons]
    omega

end Narrowing.Json
