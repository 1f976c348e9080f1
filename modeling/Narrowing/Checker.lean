import Narrowing.RuleError
import Narrowing.Schema
import Narrowing.Symbol
import Narrowing.Ty.Equality

/-!
# The three rules

Assignment, type test and field access. A union symbol takes a value of any of its member types, a
test on a union may ask for any of its members, and no field is ever read through a union. Where
the type in question is nominal, the other type has to equal it. There is no widening, and which
types are equal is for the checker's setting to say.
-/

namespace Narrowing

/-- A setting of the rules: what the nominal types look like, and when types are equal. -/
structure Checker where
  /-- The fields of the nominal types. -/
  schema : Schema := .builtin
  /-- The comparison of types. -/
  config : Config := {}
  deriving Inhabited

namespace Checker

/-- Equality of types under the checker's setting. -/
def typesEqual (checker : Checker) (a b : Ty) : Bool :=
  checker.config.unionEquality.typesEqual a b

/-- Whether some member equals the type. -/
def contains (checker : Checker) (members : List Ty) (type : Ty) : Bool :=
  members.any fun member => checker.typesEqual member type

/-- Whether a type admits another one: a union admits its members, and a nominal type admits what
equals it. Assignment and test both come down to this. -/
def admits (checker : Checker) : Ty → Ty → Bool
  | .union members, type => checker.contains members type
  | .nominal name, type => checker.typesEqual (.nominal name) type

/-- May a value of the given type be assigned to the symbol? -/
def checkAssignment (checker : Checker) (symbol : Symbol) (value : Ty) : Except RuleError Unit :=
  if checker.admits symbol.type value then .ok ()
  else if symbol.type.isUnion then .error (.unionMemberMismatch symbol.name value)
  else .error (.typeMismatch symbol.name symbol.type value)

/-- May an expression of the given type be tested for the target? If so, the target is the type of
the expression wherever the test has succeeded. -/
def checkTest (checker : Checker) (subject target : Ty) : Except RuleError Ty :=
  if checker.admits subject target then .ok target
  else if subject.isUnion then .error (.invalidNarrowing target)
  else .error (.invalidTypeCheck target subject)

/-- May the field be read from an expression of the given type? -/
def checkAccess (checker : Checker) (subject : Ty) (field : String) : Except RuleError Unit :=
  match subject with
  | .union _ => .error (.unsafeUnionAccess field)
  | .nominal name =>
    if checker.schema.hasField name field then .ok () else .error (.missingField name field)

/-- An assignment is accepted exactly when the declared type admits the value. -/
theorem checkAssignment_eq_ok_iff {checker : Checker} {symbol : Symbol} {value : Ty} :
    checker.checkAssignment symbol value = .ok () ↔ checker.admits symbol.type value = true := by
  unfold checkAssignment
  by_cases hadmits : checker.admits symbol.type value = true
  · simp [hadmits]
  · by_cases hunion : symbol.type.isUnion = true <;> simp [hadmits, hunion]

/-- A test is accepted exactly when the subject admits the target, and it narrows to the target and
to nothing else. -/
theorem checkTest_eq_ok_iff {checker : Checker} {subject target type : Ty} :
    checker.checkTest subject target = .ok type ↔
      checker.admits subject target = true ∧ target = type := by
  unfold checkTest
  by_cases hadmits : checker.admits subject target = true
  · simp [hadmits]
  · by_cases hunion : subject.isUnion = true <;> simp [hadmits, hunion]

/-- An access is accepted exactly when the subject is a nominal type with the field. -/
theorem checkAccess_eq_ok_iff {checker : Checker} {subject : Ty} {field : String} :
    checker.checkAccess subject field = .ok () ↔
      ∃ name, subject = .nominal name ∧ checker.schema.hasField name field = true := by
  cases subject with
  | nominal name =>
    by_cases hfield : checker.schema.hasField name field = true <;> simp [checkAccess, hfield]
  | union members => simp [checkAccess]

end Checker

end Narrowing
