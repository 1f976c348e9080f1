import Narrowing.Failure

/-!
# Diagnostics

What a run tells its user: a message of some severity, possibly with the kind of the failure behind
it and with notes of its own. Notes follow the message, one to a line.
-/

namespace Narrowing

/-- How serious a diagnostic is. -/
inductive Severity where
  /-- Something failed. -/
  | error
  /-- A remark. -/
  | note
  deriving Repr, DecidableEq, Inhabited

namespace Severity

/-- The name of a severity, in texts and in reports. -/
def keyword : Severity → String
  | .error => "error"
  | .note => "note"

/-- All severities, in the order in which error messages list them. -/
def all : List Severity := [.error, .note]

/-- The severity that a word names. -/
def ofKeyword? (word : String) : Option Severity := all.find? (·.keyword == word)

/-- Reading a severity's own name gives the severity back. -/
@[simp] theorem ofKeyword?_keyword (severity : Severity) :
    ofKeyword? severity.keyword = some severity := by
  cases severity <;> decide

end Severity

/-- A message for the user. -/
structure Diagnostic where
  /-- How serious it is. -/
  severity : Severity
  /-- The kind of failure behind it, if it has one. -/
  kind? : Option String := none
  /-- The message. -/
  message : String
  /-- Remarks on the message, in order. -/
  notes : List String := []
  deriving Repr, DecidableEq, Inhabited

namespace Diagnostic

/-- The diagnostic that reports a failure. -/
def ofFailure (failure : Failure) : Diagnostic where
  severity := .error
  kind? := some failure.kind
  message := failure.message

/-- A remark on its own. -/
def remark (message : String) : Diagnostic where
  severity := .note
  message := message

/-- Adds a note after those that are there. -/
def addNote (diagnostic : Diagnostic) (note : String) : Diagnostic :=
  { diagnostic with notes := diagnostic.notes ++ [note] }

/-- Gives a diagnostic another kind. -/
def withKind (diagnostic : Diagnostic) (kind : String) : Diagnostic :=
  { diagnostic with kind? := some kind }

/-- The text of a diagnostic: severity, kind in brackets, message, and a line for each note. -/
def text (diagnostic : Diagnostic) : String :=
  let kind := diagnostic.kind?.elim "" fun kind => "[" ++ kind ++ "]"
  let notes := diagnostic.notes.map fun note => "\n  note: " ++ note
  diagnostic.severity.keyword ++ kind ++ ": " ++ diagnostic.message ++ String.join notes

end Diagnostic

end Narrowing
