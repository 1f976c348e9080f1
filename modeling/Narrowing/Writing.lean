import Narrowing.Json.Value
import Narrowing.Report
import Narrowing.Script

/-!
# Writing values

The machine-readable forms of reports and settings, which the readers take back. The keys of every
object are in alphabetical order.
-/

namespace Narrowing

/-- The machine-readable form of a diagnostic. It has no key for a kind that is not there, and none
for notes if there are none. -/
def Diagnostic.toValue (diagnostic : Diagnostic) : Json.Value :=
  let kind := diagnostic.kind?.toList.map fun kind => ("kind", Json.Value.string kind)
  let notes :=
    if diagnostic.notes.isEmpty then []
    else [("notes", Json.Value.array (diagnostic.notes.map .string))]
  .object (kind ++ [("message", .string diagnostic.message)] ++ notes ++
    [("severity", .string diagnostic.severity.keyword)])

/-- The machine-readable form of a report on the named input. -/
def Report.toValue (report : Report) (input : String) : Json.Value :=
  .object [
    ("diagnostics", .array (report.diagnostics.map Diagnostic.toValue)),
    ("input", .string input),
    ("summary", .string report.summary)]

/-- The machine-readable form of a table: an object of arrays, in ascending order. -/
def FieldTable.toValue (table : FieldTable) : Json.Value :=
  .object (table.entries.map fun (typeName, fields) =>
    (typeName, .array (fields.map .string)))

/-- The machine-readable form of a setting. -/
def Config.toValue (config : Config) : Json.Value :=
  .object [("union-equality", .string config.unionEquality.keyword)]

end Narrowing
