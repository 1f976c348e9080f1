import Narrowing.Failure
import Narrowing.Ty.Basic

/-!
# Rejections

The ways in which a checking rule can reject a program: two for each of the three rules, one for
unions and one for nominal types.
-/

namespace Narrowing

/-- Why a rule rejected what it was asked about. -/
inductive RuleError where
  /-- A value does not have the declared nominal type. -/
  | typeMismatch (symbol : String) (expected found : Ty)
  /-- A value has none of the member types of a union symbol. -/
  | unionMemberMismatch (symbol : String) (found : Ty)
  /-- The target of a type test is no member of the tested union. -/
  | invalidNarrowing (target : Ty)
  /-- The target of a type test is not the tested nominal type. -/
  | invalidTypeCheck (target found : Ty)
  /-- A field is read through a union. -/
  | unsafeUnionAccess (field : String)
  /-- A nominal type does not have the field. -/
  | missingField (typeName field : String)
  deriving Repr, Inhabited

namespace RuleError

/-- The category of a rejection. -/
def kind : RuleError → String
  | .typeMismatch .. => "type-mismatch"
  | .unionMemberMismatch .. => "union-member-mismatch"
  | .invalidNarrowing .. => "invalid-narrowing"
  | .invalidTypeCheck .. => "invalid-type-check"
  | .unsafeUnionAccess .. => "unsafe-union-access"
  | .missingField .. => "missing-field"

/-- The text of a rejection. -/
def message : RuleError → String
  | .typeMismatch symbol _ _ => s!"Type mismatch in assignment to '{symbol}'"
  | .unionMemberMismatch symbol found =>
    s!"Cannot assign type '{found.text}' to union variable '{symbol}'"
  | .invalidNarrowing target => s!"Invalid type test: '{target.text}' not part of union"
  | .invalidTypeCheck target found =>
    s!"Invalid type check: '{target.text}' does not match '{found.text}'"
  | .unsafeUnionAccess field =>
    s!"Unsafe field access '{field}' on union type. Type discrimination required."
  | .missingField typeName field => s!"Type '{typeName}' has no field '{field}'"

/-- A rejection as a failure of the run. -/
def toFailure (error : RuleError) : Failure := .semantic error.kind error.message

@[simp] theorem kind_toFailure (error : RuleError) : error.toFailure.kind = error.kind := rfl

end RuleError

end Narrowing
