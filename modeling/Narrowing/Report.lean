import Narrowing.Diagnostic

/-!
# Reports

A report collects diagnostics in the order in which they arise and keeps count of the errors among
them. The diagnostic added last can still be given notes and another kind, which leaves the count
as it is.
-/

namespace Narrowing

/-- The diagnostics of a run. -/
structure Report where
  /-- The diagnostics, in order. -/
  diagnostics : List Diagnostic := []
  /-- How many errors were reported. -/
  errorCount : Nat := 0
  deriving Repr, DecidableEq, Inhabited

namespace Report

/-- The report of a run in which nothing happened. -/
def empty : Report := {}

/-- Adds a diagnostic at the end. -/
def add (report : Report) (diagnostic : Diagnostic) : Report where
  diagnostics := report.diagnostics ++ [diagnostic]
  errorCount := report.errorCount + if diagnostic.severity = .error then 1 else 0

/-- Reports a failure. -/
def fail (report : Report) (failure : Failure) : Report := report.add (.ofFailure failure)

/-- Makes a remark. -/
def remark (report : Report) (message : String) : Report := report.add (.remark message)

/-- Changes the diagnostic that was added last, if there is one. -/
def editLast (report : Report) (edit : Diagnostic → Diagnostic) : Report where
  diagnostics := report.diagnostics.dropLast ++ (report.diagnostics.getLast?.map edit).toList
  errorCount := report.errorCount

/-- Adds a note to the diagnostic that was added last. -/
def addNote (report : Report) (note : String) : Report := report.editLast (·.addNote note)

/-- Gives another kind to the diagnostic that was added last. -/
def setKind (report : Report) (kind : String) : Report := report.editLast (·.withKind kind)

/-- Whether any error was reported. -/
def hasErrors (report : Report) : Bool := report.errorCount > 0

/-- The number of errors in words. -/
def summary (report : Report) : String :=
  match report.errorCount with
  | 0 => "No errors"
  | 1 => "1 error"
  | count => s!"{count} errors"

@[simp] theorem diagnostics_add (report : Report) (diagnostic : Diagnostic) :
    (report.add diagnostic).diagnostics = report.diagnostics ++ [diagnostic] := rfl

end Report

end Narrowing
