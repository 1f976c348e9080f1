import Narrowing.Cli.Arguments
import Narrowing.Demo
import Narrowing.Json.Printer
import Narrowing.Reading.Script
import Narrowing.Runner
import Narrowing.Writing

/-!
# Responses

What the program prints, and the code it exits with: 0 if all went well, 1 if there was any error,
and 2 if the arguments are not understood. A check prints its diagnostics as errors and a summary
as output, or only the whole report as output.
-/

namespace Narrowing.Cli

/-- The outcome of the program. -/
structure Response where
  /-- The lines of its output. -/
  output : List String := []
  /-- The lines of its errors. -/
  errors : List String := []
  /-- The exit code. -/
  exitCode : Nat := 0
  deriving Repr, DecidableEq, Inhabited

namespace Response

/-- The name of the program and its version. -/
def version : Response := { output := ["ucheck 0.1.0"] }

/-- How the program is called. -/
def usage : Response where
  errors := ["Usage: ucheck [-v] [--union-equality by-name|structural] demo",
    "       ucheck [-v] [--union-equality by-name|structural] check FILE [--json]"]
  exitCode := 2

/-- The demonstration. -/
def demo (override? : Option UnionEquality) : Response :=
  match Demo.run ⟨.builtin, override?.elim {} Config.mk⟩ with
  | .ok () => { output := [Demo.successMessage] }
  | .error failure => { output := [failure.message], exitCode := 1 }

/-- The report on a file. -/
def ofReport (file : String) (json : Bool) (report : Report) : Response where
  output := if json then [(report.toValue file).text] else [file ++ ": " ++ report.summary]
  errors := if json then [] else report.diagnostics.map Diagnostic.text
  exitCode := if report.hasErrors then 1 else 0

/-- The check of a file, given its content or the failure to read it. -/
def check (file : String) (json : Bool) (override? : Option UnionEquality)
    (content : Except Failure ByteArray) : Response :=
  match content >>= Script.ofBytes with
  | .ok script => ofReport file json (script.run (override?.map Config.mk)).report
  | .error failure =>
    { errors := ["Error running script: " ++ failure.message], exitCode := 1 }

end Response

/-- The file that a request is about, if it is about one. -/
def Request.file? : Request → Option String
  | .check file _ _ => some file
  | .version | .demo _ => none

/-- The response to a request, given the content of the file that it is about. -/
def Request.respond (request : Request) (content : Except Failure ByteArray) : Response :=
  match request with
  | .version => .version
  | .demo override? => .demo override?
  | .check file json override? => .check file json override? content

end Narrowing.Cli
