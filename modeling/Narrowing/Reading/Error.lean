import Narrowing.Json.Found

/-!
# Why a text cannot be read

A text may be malformed, or be well formed and not say what it should. What was expected is given
in the words of the message.
-/

namespace Narrowing

/-- Why a text does not say what it should. -/
inductive ReadError where
  /-- The text is malformed. -/
  | malformed (cause : Json.SyntaxError)
  /-- A value of another kind was expected. -/
  | wrongKind (found : Json.Found) (expected : String)
  /-- A value of this kind was expected, but not this one. -/
  | wrongValue (found : Json.Found) (expected : String)
  /-- An array has too few or too many elements. -/
  | wrongLength (length : Nat) (expected : String)
  /-- A word is none of those that can stand in its place. -/
  | unknownWord (word : String) (known : List String)
  /-- A record lacks a field. -/
  | missingField (name : String)
  /-- A record has a field twice. -/
  | duplicateField (name : String)
  /-- A value is no type reference. -/
  | noTypeReference
  deriving Repr, DecidableEq, Inhabited

namespace ReadError

/-- A name as messages show it. -/
def ticked (name : String) : String := "`" ++ name ++ "`"

/-- The words that can stand in a place. -/
def choice : List String → String
  | [] => "there are no variants"
  | [word] => "expected " ++ ticked word
  | [word, other] => "expected " ++ ticked word ++ " or " ++ ticked other
  | words => "expected one of " ++ ", ".intercalate (words.map ticked)

/-- The text of an error. -/
def message : ReadError → String
  | .malformed cause => cause.message
  | .wrongKind found expected => "invalid type: " ++ found.text ++ ", expected " ++ expected
  | .wrongValue found expected => "invalid value: " ++ found.text ++ ", expected " ++ expected
  | .wrongLength length expected =>
    "invalid length " ++ toString length ++ ", expected " ++ expected
  | .unknownWord word known => "unknown variant " ++ ticked word ++ ", " ++ choice known
  | .missingField name => "missing field " ++ ticked name
  | .duplicateField name => "duplicate field " ++ ticked name
  | .noTypeReference => "data did not match any variant of untagged enum TypeRef"

end ReadError

end Narrowing
