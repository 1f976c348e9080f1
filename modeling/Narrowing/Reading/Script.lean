import Narrowing.Failure
import Narrowing.Reading.Check

/-!
# Reading scripts

The records that a script is made of, and scripts as whole texts.
-/

namespace Narrowing

/-- Reads the name of a comparison. -/
def UnionEquality.reader : Reader UnionEquality :=
  Reader.word (UnionEquality.all.map UnionEquality.keyword) UnionEquality.ofKeyword?

/-- The field of a setting that tells how types are compared. -/
def Config.equalityField : Field (Option UnionEquality) where
  name := "union-equality"
  isOptional := true
  isGiven := Option.isSome
  read _ depth node := do return some (← UnionEquality.reader depth node)

/-- Reads a setting. -/
def Config.reader : Reader Config := fun depth node => do
  match ← Field.readRecord "struct CheckerConfig" [equalityField] none depth node with
  | some equality => return ⟨equality⟩
  | none => return {}

/-- Reads a table of fields. -/
def FieldTable.reader : Reader FieldTable := fun depth node => do
  return ofList (← Reader.map (Reader.list Reader.string) depth node)

namespace Declaration

/-- A declaration that is being read. -/
structure Draft where
  /-- The name. -/
  name? : Option String := none
  /-- The type. -/
  type? : Option TypeRef := none

/-- The field for the name. -/
def nameField : Field Draft where
  name := "name"
  isGiven draft := draft.name?.isSome
  read draft depth node := do return { draft with name? := some (← Reader.string depth node) }

/-- The field for the type. -/
def typeField : Field Draft where
  name := "type"
  isGiven draft := draft.type?.isSome
  read draft depth node := do return { draft with type? := some (← TypeRef.reader depth node) }

/-- Reads a declaration. -/
def reader : Reader Declaration := fun depth node => do
  let draft ← Field.readRecord "struct SymbolDecl" [nameField, typeField] {} depth node
  let name ← requiredField nameField.name draft.name?
  return ⟨name, ← requiredField typeField.name draft.type?⟩

end Declaration

namespace Script

/-- A script that is being read. -/
structure Draft where
  /-- The setting. -/
  config? : Option Config := none
  /-- The table of fields; `some none` if it is given as none. -/
  fields? : Option (Option FieldTable) := none
  /-- The declarations. -/
  declarations? : Option (List Declaration) := none
  /-- The checks. -/
  checks? : Option (List Check) := none

/-- The fields of a script. All of them are optional. -/
def recordFields : List (Field Draft) := [
  { name := "config"
    isOptional := true
    isGiven := fun draft => draft.config?.isSome
    read := fun draft depth node => do
      return { draft with config? := some (← Config.reader depth node) } },
  { name := "fields"
    isOptional := true
    isGiven := fun draft => draft.fields?.isSome
    read := fun draft depth node => do
      return { draft with fields? := some (← Reader.optional FieldTable.reader depth node) } },
  { name := "symbols"
    isOptional := true
    isGiven := fun draft => draft.declarations?.isSome
    read := fun draft depth node => do
      return { draft with
        declarations? := some (← Reader.list Declaration.reader depth node) } },
  { name := "checks"
    isOptional := true
    isGiven := fun draft => draft.checks?.isSome
    read := fun draft depth node => do
      return { draft with checks? := some (← Reader.list Check.reader depth node) } }]

/-- The script that a draft amounts to. -/
def Draft.finish (draft : Draft) : Script where
  config := draft.config?.getD {}
  fields? := draft.fields?.join
  declarations := draft.declarations?.getD []
  checks := draft.checks?.getD []

/-- Reads a script. -/
def reader : Reader Script := fun depth node => do
  return (← Field.readRecord "struct Script" recordFields {} depth node).finish

/-- The script that a text holds. -/
def ofText (source : String) : Except Failure Script :=
  (Reader.text reader source).mapError fun error => .script error.message

/-- The script that a file holds, given its bytes. -/
def ofBytes (bytes : ByteArray) : Except Failure Script :=
  match String.fromUTF8? bytes with
  | some source => ofText source
  | none => .error (.file "stream did not contain valid UTF-8")

end Script

end Narrowing
