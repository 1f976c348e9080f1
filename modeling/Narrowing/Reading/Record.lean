import Narrowing.Reading.Basic

/-!
# Reading records

A record is written as an object, with its fields in any order, or as an array, with its fields in
the order of their declarations. In an object, fields that are not known are passed over, no field
may be given twice, and a required field that is missing is reported at the end. An array may be
shorter than the record if the fields it leaves out are optional.
-/

namespace Narrowing

/-- A field of a record that is being read, where `σ` holds what has been read so far. -/
structure Field (σ : Type) where
  /-- The name of the field. -/
  name : String
  /-- Whether the field may be left out. -/
  isOptional : Bool := false
  /-- Whether the field has been read. -/
  isGiven : σ → Bool
  /-- Reads the value of the field into what has been read so far. -/
  read : σ → Reader σ

namespace Field

variable {σ : Type}

/-- Reads the members of an object into a record. -/
def readMembers (fields : List (Field σ)) (depth : Nat) :
    List (Json.Node × Json.Node) → σ → Except ReadError σ
  | [], record => .ok record
  | (key, value) :: rest, record => do
    let name ← Reader.lift key.takeKey
    match fields.find? (·.name == name) with
    | none => Reader.lift value.pass; readMembers fields depth rest record
    | some field =>
      if field.isGiven record then throw (.duplicateField name)
      readMembers fields depth rest (← field.read record depth value)

/-- How messages describe an array of the fields of a record. -/
def arrayDescription (title : String) (size : Nat) : String :=
  title ++ " with " ++ toString size ++ if size = 1 then " element" else " elements"

/-- Checks the end of an array after all fields have been read from it: the array should be closed
here and nowhere later. -/
def endOfArray (rest : List Json.Node) (tail : Json.Tail) : Except Json.SyntaxError Unit :=
  match rest, tail with
  | [], .closed => .ok ()
  | [], .cutOff => .error .arrayCutOff
  | [], .commaClosed => .error .trailingComma
  | _, _ => .error .trailingCharacters

/-- Reads the elements of an array into a record, given the fields that are still to come, the
number of those before them, and how messages describe the array. -/
def readElements (description : String) (depth : Nat) (tail : Json.Tail) :
    List (Field σ) → Nat → List Json.Node → σ → Except ReadError σ
  | [], _, rest, record => do
    Reader.lift (endOfArray rest tail)
    return record
  | field :: fields, position, [], record => do
    Reader.lift tail.checkArray
    if field.isOptional then
      readElements description depth tail fields (position + 1) [] record
    else throw (.wrongLength position description)
  | field :: fields, position, element :: rest, record => do
    let record ← field.read record depth element
    readElements description depth tail fields (position + 1) rest record

/-- Reads a record into a blank one. -/
def readRecord (title : String) (fields : List (Field σ)) (blank : σ) : Reader σ
  | depth, .object members tail => do
    let record ← readMembers fields (← Reader.openNested depth) members blank
    Reader.lift tail.checkObject
    return record
  | depth, .array elements tail => do
    let inner ← Reader.openNested depth
    readElements (arrayDescription title fields.length) inner tail fields 0 elements blank
  | _, node => Reader.reject node title

end Field

/-- The value of a field that must not be missing. -/
def requiredField {α : Type} (name : String) : Option α → Except ReadError α
  | some value => .ok value
  | none => .error (.missingField name)

end Narrowing
