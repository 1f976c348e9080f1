/-!
# Malformed JSON

The ways in which a text can fail to be JSON, and what is said about each of them.
-/

namespace Narrowing.Json

/-- What is wrong with a text that is not JSON, or not JSON that can be taken in. -/
inductive SyntaxError where
  /-- The text ends where a value is needed or within a word or a number. -/
  | valueCutOff
  /-- The text ends within an array. -/
  | arrayCutOff
  /-- The text ends within an object. -/
  | objectCutOff
  /-- The text ends within a string. -/
  | stringCutOff
  /-- Something else stands where a value is needed. -/
  | valueExpected
  /-- A word begins like `true`, `false` or `null` and continues otherwise. -/
  | wordMisspelt
  /-- No colon follows on a key. -/
  | colonExpected
  /-- Neither a comma nor the end of the array follows on an element. -/
  | arrayEndExpected
  /-- Neither a comma nor the end of the object follows on a member. -/
  | objectEndExpected
  /-- A comma stands before a closing bracket. -/
  | trailingComma
  /-- The text goes on after its value. -/
  | trailingCharacters
  /-- Something else than a string stands where a key is needed. -/
  | keyExpected
  /-- A number lacks digits or begins with a zero too many. -/
  | numberMalformed
  /-- A number is too large. -/
  | numberTooLarge
  /-- An escape in a string is none of the known ones. -/
  | escapeUnknown
  /-- An escaped surrogate has no partner. -/
  | surrogateAlone
  /-- No escape follows on the first half of an escaped pair of surrogates. -/
  | pairUnfinished
  /-- A control character stands in a string. -/
  | controlCharacter
  /-- Arrays and objects are nested too deeply. -/
  | nestedTooDeeply
  deriving Repr, DecidableEq, Inhabited

/-- The text of a cause. -/
def SyntaxError.message : SyntaxError → String
  | .valueCutOff => "EOF while parsing a value"
  | .arrayCutOff => "EOF while parsing a list"
  | .objectCutOff => "EOF while parsing an object"
  | .stringCutOff => "EOF while parsing a string"
  | .valueExpected => "expected value"
  | .wordMisspelt => "expected ident"
  | .colonExpected => "expected `:`"
  | .arrayEndExpected => "expected `,` or `]`"
  | .objectEndExpected => "expected `,` or `\x7d`"
  | .trailingComma => "trailing comma"
  | .trailingCharacters => "trailing characters"
  | .keyExpected => "key must be a string"
  | .numberMalformed => "invalid number"
  | .numberTooLarge => "number out of range"
  | .escapeUnknown => "invalid escape"
  | .surrogateAlone => "lone leading surrogate in hex escape"
  | .pairUnfinished => "unexpected end of hex escape"
  | .controlCharacter => "control character (\\u0000-\\u001F) found while parsing a string"
  | .nestedTooDeeply => "recursion limit exceeded"

end Narrowing.Json
