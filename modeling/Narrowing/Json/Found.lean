import Narrowing.Binary64.DecimalText
import Narrowing.Json.Value
import Narrowing.Text.Quoted

/-!
# What was found

How messages describe a value that is not of the expected kind. Scalars are shown in full, arrays
and objects only by their kind.
-/

namespace Narrowing

namespace Json

/-- The text of a number. -/
def Number.text : Number → String
  | .integer value => toString value
  | .real negative magnitude => (if negative then "-" else "") ++ magnitude.shortest.text

/-- A short description of a value. -/
inductive Found where
  /-- The value `null`. -/
  | null
  /-- A truth value. -/
  | bool (value : Bool)
  /-- A number. -/
  | number (value : Number)
  /-- A string. -/
  | string (value : String)
  /-- An array. -/
  | array
  /-- An object. -/
  | object
  deriving Repr, DecidableEq, Inhabited

/-- The text of a description. -/
def Found.text : Found → String
  | .null => "null"
  | .bool value => "boolean `" ++ (if value then "true" else "false") ++ "`"
  | .number (.integer value) => "integer `" ++ toString value ++ "`"
  | .number (.real negative magnitude) =>
    "floating point `" ++ (Number.real negative magnitude).text ++ "`"
  | .string value => "string " ++ Text.quoted value
  | .array => "sequence"
  | .object => "map"

/-- The description of a value. -/
def Value.found : Value → Found
  | .null => .null
  | .bool value => .bool value
  | .number value => .number value
  | .string value => .string value
  | .array _ => .array
  | .object _ => .object

/-- The description of a tree. Scalars are taken in for it; arrays and objects are not looked
into. -/
def Node.found : Node → Except SyntaxError Found
  | .null => .ok .null
  | .bool value => .ok (.bool value)
  | .number lexeme => do return .number (← lexeme.value)
  | .string quotation => do return .string (← quotation.value)
  | .array _ _ => .ok .array
  | .object _ _ => .ok .object
  | .broken cause => .error cause.error

end Json

end Narrowing
