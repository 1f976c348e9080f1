import Narrowing.Reading.Error

/-!
# Readers

A reader makes something of a tree. It goes through the tree from left to right and stops at the
first thing that is wrong, be it an error of the text or of what the text says. A reader is given
how many arrays and objects may still be opened.
-/

namespace Narrowing

/-- A way to make something of a tree. -/
abbrev Reader (α : Type) := Nat → Json.Node → Except ReadError α

namespace Reader

variable {α : Type}

/-- An outcome that can only fail for the form of the text. -/
def lift (outcome : Except Json.SyntaxError α) : Except ReadError α :=
  outcome.mapError ReadError.malformed

/-- Rejects a tree that is of another kind than expected. Where the tree is a malformed scalar, or
none at all, that is what is reported. -/
def reject (node : Json.Node) (expected : String) : Except ReadError α := do
  throw (.wrongKind (← lift node.found) expected)

/-- Opens an array or an object. -/
def openNested (depth : Nat) : Except ReadError Nat := lift (Json.openNested depth)

/-- Reads a string. -/
def string : Reader String
  | _, .string quotation => lift quotation.value
  | _, node => reject node "a string"

/-- Reads what may be `null`. -/
def optional (reader : Reader α) : Reader (Option α)
  | _, .null => .ok none
  | depth, node => (reader depth node).map some

/-- Reads an array of things of one kind. -/
def list (reader : Reader α) : Reader (List α)
  | depth, .array elements tail => do
    let inner ← openNested depth
    let values ← elements.mapM (reader inner)
    lift tail.checkArray
    return values
  | _, node => reject node "a sequence"

/-- Reads an object whose keys can be any. -/
def map (reader : Reader α) : Reader (List (String × α))
  | depth, .object members tail => do
    let inner ← openNested depth
    let entries ← members.mapM fun (key, value) => do
      return (← lift key.takeKey, ← reader inner value)
    lift tail.checkObject
    return entries
  | _, node => reject node "a map"

/-- The meaning of a word that has to be one of the known ones. -/
def meaning (known : List String) (ofWord? : String → Option α) (word : String) :
    Except ReadError α :=
  match ofWord? word with
  | some value => .ok value
  | none => .error (.unknownWord word known)

/-- Reads a word in a place where it tells variants apart. -/
def variant (known : List String) (ofWord? : String → Option α) :
    Json.Node → Except ReadError α
  | .string quotation => do meaning known ofWord? (← lift quotation.value)
  | node => reject node "variant identifier"

/-- Checks that a tree is `null`. -/
def unit : Json.Node → Except ReadError Unit
  | .null => .ok ()
  | node => reject node "unit"

/-- Reads one of the known words, either as a string or as the only key of an object whose value is
`null`. The key of the object is read as any key is, an object that has none or more than one lacks
the form, and a tree of any other kind is rejected by its first character. -/
def word (known : List String) (ofWord? : String → Option α) : Reader α
  | _, .string quotation => do meaning known ofWord? (← lift quotation.value)
  | depth, .object members tail => do
    let _ ← openNested depth
    match members with
    | [] =>
      throw (.malformed (if tail = .cutOff then .objectCutOff else .valueExpected))
    | (key, value) :: rest =>
      let result ← meaning known ofWord? (← lift key.takeKey)
      unit value
      match rest, tail with
      | [], .closed => return result
      | [], .cutOff => throw (.malformed .objectCutOff)
      | _, _ => throw (.malformed .valueExpected)
  | _, .broken .wordCutOff | _, .broken .wordMisspelt => .error (.malformed .valueExpected)
  | _, .broken cause => .error (.malformed cause.error)
  | _, _ => .error (.malformed .valueExpected)

/-- Reads a whole text. -/
def text (reader : Reader α) (source : String) : Except ReadError α := do
  let document := Json.Document.ofText source
  let value ← reader Json.nestingLimit document.root
  if document.goesOn then throw (.malformed .trailingCharacters)
  return value

end Reader

end Narrowing
