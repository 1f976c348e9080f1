import Narrowing.Cli.Response

/-!
# The program

Reads the arguments, reads the file that a check is about, and prints the response.
-/

namespace Narrowing

/-- What is said about a file that cannot be read: the system's reason and its number, which may be
reported as a negative one. -/
def fileFailure (error : IO.Error) : Failure :=
  match error with
  | .noFileOrDirectory _ code reason
  | .inappropriateType _ code reason
  | .permissionDenied _ code reason
  | .invalidArgument _ code reason =>
    let number := if code < 0x80000000 then code else -code
    .file (reason.capitalize ++ " (os error " ++ toString number ++ ")")
  | error => .file (toString error)

/-- The content of a file. -/
def loadFile (file : String) : IO (Except Failure ByteArray) := do
  try return .ok (← IO.FS.readBinFile file)
  catch error => return .error (fileFailure error)

/-- The response to the arguments of the program. -/
def respond (arguments : List String) : IO Cli.Response := do
  match Cli.Request.ofArguments? arguments with
  | none => return .usage
  | some request =>
    let content ← request.file?.elim (pure (.ok .empty)) loadFile
    return request.respond content

end Narrowing

/-- Runs the program. -/
def main (arguments : List String) : IO UInt32 := do
  let response ← Narrowing.respond arguments
  response.errors.forM fun line => IO.eprintln line
  response.output.forM fun line => IO.println line
  return UInt32.ofNat response.exitCode
