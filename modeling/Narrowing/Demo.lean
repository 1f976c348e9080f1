import Narrowing.Checker.Records

/-!
# The demonstration program

The program declares `x : int | string | Point`, assigns an `int` to `x`, tests `x` for `Point` and
reads the field `x` where the test has succeeded.
-/

namespace Narrowing

namespace Demo

/-- What is printed when every check passes. -/
def successMessage : String := "Program is semantically correct."

/-- The type that is assigned. -/
def intType : Ty := .nominal "int"

/-- The type that is tested for. -/
def pointType : Ty := .nominal "Point"

/-- The symbol of the program. -/
def symbol : Symbol := ⟨"x", .union [intType, .nominal "string", pointType]⟩

/-- Makes the checks of the program, up to the first that fails. -/
def run (checker : Checker) : Except Failure Unit :=
  Except.mapError RuleError.toFailure do
    checker.checkAssignment symbol intType
    let narrowed ← checker.checkTest symbol.type pointType
    checker.checkAccess narrowed "x"

/-- The records of the checks. Only the last of them can fail, so they are all made. -/
def records (checker : Checker) : List Record :=
  ⟨.info, s!"declared {symbol.name}: {symbol.type.text}"⟩ ::
    Checker.assignmentRecords symbol intType ++ checker.testRecords symbol.type pointType ++
      Checker.accessRecords pointType "x"

/-- The program passes under the built-in schema, however types are compared. -/
theorem run_builtin (equality : UnionEquality) : run ⟨.builtin, ⟨equality⟩⟩ = .ok () := by
  cases equality <;> rfl

end Demo

end Narrowing
