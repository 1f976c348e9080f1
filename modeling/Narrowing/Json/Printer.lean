import Narrowing.Json.Found
import Narrowing.Text.Quoted

/-!
# Printing values

A value is printed over several lines, two columns further in for each level of nesting. Empty
arrays and objects stay on one line. Of the characters of a string only quotation marks,
backslashes and controls are escaped.
-/

namespace Narrowing.Json

/-- A character as it is printed within a string. -/
def escapedChar (c : Char) : List Char :=
  match c with
  | '"' => ['\\', '"']
  | '\\' => ['\\', '\\']
  | '\x08' => ['\\', 'b']
  | '\x0c' => ['\\', 'f']
  | '\n' => ['\\', 'n']
  | '\r' => ['\\', 'r']
  | '\t' => ['\\', 't']
  | c =>
    if c.toNat < 0x20 then
      ['\\', 'u', '0', '0', Nat.digitChar (c.toNat / 16), Nat.digitChar (c.toNat % 16)]
    else [c]

/-- A string as it is printed. -/
def printString (s : String) : String :=
  "\"" ++ String.ofList (s.toList.flatMap escapedChar) ++ "\""

/-- The beginning of a line at a level of nesting. -/
def newLine (level : Nat) : String := "\n" ++ String.ofList (List.replicate (2 * level) ' ')

/-- Items between a pair of brackets, each on a line of its own. -/
def printBlock (opening closing : String) (level : Nat) (items : List String) : String :=
  if items.isEmpty then opening ++ closing
  else
    let lines := items.map fun item => newLine (level + 1) ++ item
    opening ++ ",".intercalate lines ++ newLine level ++ closing

namespace Value

mutual

/-- A value as it is printed at a level of nesting. -/
def print (level : Nat) : Value → String
  | .null => "null"
  | .bool value => if value then "true" else "false"
  | .number value => value.text
  | .string value => printString value
  | .array elements => printBlock "[" "]" level (printElements (level + 1) elements)
  | .object members => printBlock "\x7b" "\x7d" level (printMembers (level + 1) members)

/-- The elements of an array as they are printed. -/
def printElements (level : Nat) : List Value → List String
  | [] => []
  | element :: rest => element.print level :: printElements level rest

/-- The members of an object as they are printed. -/
def printMembers (level : Nat) : List (String × Value) → List String
  | [] => []
  | (key, value) :: rest =>
    (printString key ++ ": " ++ value.print level) :: printMembers level rest

end

/-- The text of a value. -/
def text (value : Value) : String := value.print 0

end Value

end Narrowing.Json
