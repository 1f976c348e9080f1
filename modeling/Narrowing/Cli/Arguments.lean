import Narrowing.Ty.Equality

/-!
# Command line arguments

The program is asked for its version, for the demonstration or for the check of a file. Options
may stand before the command and after it; where both set how types are compared, the one after it
counts. On the same side of the command no option may be repeated.
-/

namespace Narrowing.Cli

/-- What the program is asked for. -/
inductive Request where
  /-- To tell its version. -/
  | version
  /-- To run the demonstration. -/
  | demo (override? : Option UnionEquality)
  /-- To run the script in a file, and to print the report as a value if `json` is set. -/
  | check (file : String) (json : Bool) (override? : Option UnionEquality)
  deriving Repr, DecidableEq, Inhabited

/-- The command that the arguments belong to. -/
inductive Command where
  /-- No command has been given yet. -/
  | none
  /-- The demonstration. -/
  | demo
  /-- The check of a file. -/
  | check
  deriving Repr, DecidableEq, Inhabited

/-- The arguments that have been read so far. -/
structure Arguments where
  /-- The command. -/
  command : Command := .none
  /-- Whether verbosity was asked for on this side of the command. -/
  verbose : Bool := false
  /-- The comparison that was asked for on this side of the command. -/
  equality? : Option UnionEquality := Option.none
  /-- The comparison that was asked for before the command. -/
  outerEquality? : Option UnionEquality := Option.none
  /-- The file to check. -/
  file? : Option String := Option.none
  /-- Whether the report is to be printed as a value. -/
  json : Bool := false
  deriving Repr, Inhabited

namespace Arguments

/-- Asks for verbosity. -/
def setVerbose (arguments : Arguments) : Option Arguments :=
  if arguments.verbose then none else some { arguments with verbose := true }

/-- Asks for a comparison by its name. -/
def setEquality (arguments : Arguments) (name : String) : Option Arguments :=
  if arguments.equality?.isSome then none
  else do return { arguments with equality? := some (← UnionEquality.ofKeyword? name) }

/-- Asks for the report as a value. -/
def setJson (arguments : Arguments) : Option Arguments :=
  if arguments.command ≠ .check || arguments.json then none
  else some { arguments with json := true }

/-- Takes an argument that is no option: the command, or the file to check. -/
def addWord (arguments : Arguments) (word : String) : Option Arguments :=
  match arguments.command with
  | .none =>
    let enter (command : Command) : Arguments :=
      { command, outerEquality? := arguments.equality? }
    if word = "demo" then some (enter .demo)
    else if word = "check" then some (enter .check)
    else none
  | .demo => none
  | .check =>
    if arguments.file?.isSome || word.isEmpty then none
    else some { arguments with file? := some word }

/-- Takes the arguments after the end of the options. No command can be among them. -/
def addWords (arguments : Arguments) (words : List String) : Option Arguments :=
  if arguments.command = .none then none else words.foldlM addWord arguments

/-- The request that the arguments make, if they are complete. -/
def finish (arguments : Arguments) : Option Request :=
  let override? := arguments.equality? <|> arguments.outerEquality?
  match arguments.command, arguments.file? with
  | .none, _ => none
  | .demo, _ => some (.demo override?)
  | .check, some file => some (.check file arguments.json override?)
  | .check, none => none

/-- What options lead to: further arguments to be read, or a request that is met at once. -/
inductive Step where
  /-- The arguments with the options taken into account. -/
  | continue (arguments : Arguments)
  /-- A request for the version. -/
  | version

/-- Takes a group of options of one letter each. The version can only be asked for before the
command. -/
def addLetters (arguments : Arguments) : List Char → Option Step
  | [] => some (.continue arguments)
  | 'v' :: rest => do addLetters (← arguments.setVerbose) rest
  | 'V' :: _ => if arguments.command = .none then some .version else none
  | _ :: _ => none

/-- Takes an option by its name. -/
def addOption (arguments : Arguments) (name : String) : Option Step :=
  match name with
  | "verbose" => arguments.setVerbose.map .continue
  | "json" => arguments.setJson.map .continue
  | "version" => if arguments.command = .none then some .version else none
  | _ => none

/-- The option that takes a value. -/
def equalityOption : List Char := "--union-equality".toList

/-- Takes an argument that needs no other one. -/
def add (arguments : Arguments) (argument : String) : Option Step :=
  match argument.toList with
  | '-' :: '-' :: name =>
    if (equalityOption ++ ['=']).isPrefixOf argument.toList then
      let value := argument.toList.drop (equalityOption.length + 1)
      (arguments.setEquality (String.ofList value)).map .continue
    else arguments.addOption (String.ofList name)
  | '-' :: letter :: letters => arguments.addLetters (letter :: letters)
  | _ => (arguments.addWord argument).map .continue

/-- Whether an argument cannot be the value of an option because it looks like one. -/
def looksLikeOption (argument : String) : Bool :=
  match argument.toList with
  | '-' :: _ :: _ => true
  | _ => false

/-- Reads arguments from left to right, up to the first that is not understood. -/
def read (arguments : Arguments) : List String → Option Request
  | [] => arguments.finish
  | argument :: rest =>
    if argument = "--" then do (← arguments.addWords rest).finish
    else if argument.toList = equalityOption then
      match rest with
      | [] => none
      | value :: rest =>
        if looksLikeOption value then none else do read (← arguments.setEquality value) rest
    else
      match arguments.add argument with
      | none => none
      | some .version => some .version
      | some (.continue arguments) => arguments.read rest

end Arguments

/-- The request that the arguments of the program make; none if they are not understood. -/
def Request.ofArguments? (arguments : List String) : Option Request :=
  Arguments.read {} arguments

/-- Options on both sides of the command. -/
example : Request.ofArguments? ["--union-equality=by-name", "check", "-v", "a.json",
    "--union-equality", "structural"] = some (.check "a.json" false (some .structural)) := by
  decide +kernel

/-- A dash alone is a file, and so is anything after the end of the options. -/
example : Request.ofArguments? ["check", "-"] = some (.check "-" false none) ∧
    Request.ofArguments? ["check", "--", "--json"] = some (.check "--json" false none) := by
  decide +kernel

/-- The version is told as soon as it is asked for, but not after a command or an error. -/
example : Request.ofArguments? ["-vV", "x"] = some .version ∧
    Request.ofArguments? ["x", "-V"] = none ∧ Request.ofArguments? ["demo", "-V"] = none := by
  decide +kernel

end Narrowing.Cli
