import Narrowing.Diagnostic
import Narrowing.Reading.Record

/-!
# Reading diagnostics

Diagnostics are written into reports and can be read back from them.
-/

namespace Narrowing

/-- Reads the name of a severity. -/
def Severity.reader : Reader Severity :=
  Reader.word (Severity.all.map Severity.keyword) Severity.ofKeyword?

namespace Diagnostic

/-- A diagnostic that is being read. -/
structure Draft where
  /-- The severity. -/
  severity? : Option Severity := none
  /-- The kind; `some none` if it is given as none. -/
  kind? : Option (Option String) := none
  /-- The message. -/
  message? : Option String := none
  /-- The notes. -/
  notes? : Option (List String) := none

/-- The fields of a diagnostic. -/
def recordFields : List (Field Draft) := [
  { name := "severity"
    isGiven := fun draft => draft.severity?.isSome
    read := fun draft depth node => do
      return { draft with severity? := some (← Severity.reader depth node) } },
  { name := "kind"
    isOptional := true
    isGiven := fun draft => draft.kind?.isSome
    read := fun draft depth node => do
      return { draft with kind? := some (← Reader.optional Reader.string depth node) } },
  { name := "message"
    isGiven := fun draft => draft.message?.isSome
    read := fun draft depth node => do
      return { draft with message? := some (← Reader.string depth node) } },
  { name := "notes"
    isOptional := true
    isGiven := fun draft => draft.notes?.isSome
    read := fun draft depth node => do
      return { draft with notes? := some (← Reader.list Reader.string depth node) } }]

/-- The diagnostic that a draft amounts to, unless a required field is missing. -/
def Draft.finish (draft : Draft) : Except ReadError Diagnostic := do
  let severity ← requiredField "severity" draft.severity?
  let message ← requiredField "message" draft.message?
  return { severity, kind? := draft.kind?.join, message, notes := draft.notes?.getD [] }

/-- Reads a diagnostic. -/
def reader : Reader Diagnostic := fun depth node => do
  (← Field.readRecord "struct Diagnostic" recordFields {} depth node).finish

end Diagnostic

end Narrowing
