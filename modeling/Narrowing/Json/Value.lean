import Narrowing.Json.Node

/-!
# Values

The value of a sound tree. A tree is either taken in, which gives its value and refuses numbers
that are too large, unpaired surrogates and nesting beyond a limit, or passed over, which only asks
for its form.
-/

namespace Narrowing.Json

/-- A value of the format. The members of an object keep their order and repetitions. -/
inductive Value where
  /-- The value `null`. -/
  | null
  /-- A truth value. -/
  | bool (value : Bool)
  /-- A number. -/
  | number (value : Number)
  /-- A string. -/
  | string (value : String)
  /-- An array. -/
  | array (elements : List Value)
  /-- An object. -/
  | object (members : List (String × Value))
  deriving Repr, Inhabited

/-- How many arrays and objects may be open at once. -/
def nestingLimit : Nat := 127

/-- Opens an array or an object, given how many more may be opened. -/
def openNested : Nat → Except SyntaxError Nat
  | 0 => .error .nestedTooDeeply
  | depth + 1 => .ok depth

/-- What is wrong with the end of a list. -/
def Tail.check (tail : Tail) (cutOff endExpected : SyntaxError) : Except SyntaxError Unit :=
  match tail with
  | .closed => .ok ()
  | .cutOff => .error cutOff
  | .stray => .error endExpected
  | .commaClosed => .error .trailingComma
  | .commaCutOff => .error .valueCutOff

/-- Checks the end of an array. -/
def Tail.checkArray (tail : Tail) : Except SyntaxError Unit :=
  tail.check .arrayCutOff .arrayEndExpected

/-- Checks the end of an object. -/
def Tail.checkObject (tail : Tail) : Except SyntaxError Unit :=
  tail.check .objectCutOff .objectEndExpected

/-- Checks the end of an array that is passed over, where a value is asked for after any comma. -/
def Tail.passArray (tail : Tail) : Except SyntaxError Unit :=
  match tail with
  | .commaClosed => .error .valueExpected
  | _ => tail.checkArray

/-- Checks the end of an object that is passed over, where a key is asked for after any comma. -/
def Tail.passObject (tail : Tail) : Except SyntaxError Unit :=
  match tail with
  | .commaClosed => .error .keyExpected
  | .commaCutOff => .error .objectCutOff
  | _ => tail.checkObject

namespace Node

/-- Takes in a key. -/
def takeKey : Node → Except SyntaxError String
  | .string quotation => quotation.value
  | _ => .error .keyExpected

/-- Passes over a key. -/
def passKey : Node → Except SyntaxError Unit
  | .string quotation => quotation.pass
  | _ => .error .keyExpected

mutual

/-- Takes in a tree, in which the given number of arrays and objects may be open at once. -/
def take (depth : Nat) : Node → Except SyntaxError Value
  | .null => .ok .null
  | .bool value => .ok (.bool value)
  | .number lexeme => do return .number (← lexeme.value)
  | .string quotation => do return .string (← quotation.value)
  | .array elements tail => do
    let elements ← takeElements (← openNested depth) elements
    tail.checkArray
    return .array elements
  | .object members tail => do
    let members ← takeMembers (← openNested depth) members
    tail.checkObject
    return .object members
  | .broken cause => .error cause.error

/-- Takes in trees, from left to right. -/
def takeElements (depth : Nat) : List Node → Except SyntaxError (List Value)
  | [] => .ok []
  | element :: rest => do return (← element.take depth) :: (← takeElements depth rest)

/-- Takes in members, from left to right. -/
def takeMembers (depth : Nat) : List (Node × Node) → Except SyntaxError (List (String × Value))
  | [] => .ok []
  | (key, value) :: rest => do
    return (← key.takeKey, ← value.take depth) :: (← takeMembers depth rest)

end

mutual

/-- Passes over a tree. -/
def pass : Node → Except SyntaxError Unit
  | .null | .bool _ => .ok ()
  | .number lexeme => lexeme.pass
  | .string quotation => quotation.pass
  | .array elements tail => do passElements elements; tail.passArray
  | .object members tail => do passMembers members; tail.passObject
  | .broken cause => .error cause.error

/-- Passes over trees, from left to right. -/
def passElements : List Node → Except SyntaxError Unit
  | [] => .ok ()
  | element :: rest => do element.pass; passElements rest

/-- Passes over members, from left to right. -/
def passMembers : List (Node × Node) → Except SyntaxError Unit
  | [] => .ok ()
  | (key, value) :: rest => do key.passKey; value.pass; passMembers rest

end

end Node

end Narrowing.Json
