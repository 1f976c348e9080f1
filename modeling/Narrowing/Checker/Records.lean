import Narrowing.Checker
import Narrowing.Log
import Narrowing.Ty.Tagged

/-!
# What the rules log

The records that each rule leaves in the log. A membership test logs one record before it looks at
any member, and comparisons of two single types log nothing.
-/

namespace Narrowing

/-- The records of a membership test. -/
def membershipRecords (members : List Ty) (type : Ty) : List Record :=
  [⟨.trace, s!"scanning {members.length} union members for '{type.text}'"⟩]

/-- The records of asking whether a value may be stored in a slot. -/
def TaggedValue.inhabitsRecords (value : TaggedValue) : Ty → List Record
  | .union members => membershipRecords members value.tag
  | .nominal _ => []

namespace Checker

/-- The records of checking an assignment. -/
def assignmentRecords (symbol : Symbol) (value : Ty) : List Record :=
  ⟨.debug, s!"check_assignment: {symbol.name}: {symbol.type.text} <- {value.text}"⟩ ::
    match symbol.type with
    | .union members => membershipRecords members value
    | .nominal _ => []

/-- The records of checking a type test. -/
def testRecords (checker : Checker) (subject target : Ty) : List Record :=
  ⟨.debug, s!"check_is: {subject.text} is {target.text}"⟩ ::
    match subject with
    | .nominal _ => []
    | .union members =>
      membershipRecords members target ++
        if checker.contains members target then
          [⟨.debug, s!"narrowed {subject.text} to {target.text}"⟩]
        else []

/-- The records of checking a field access. -/
def accessRecords (subject : Ty) (field : String) : List Record :=
  [⟨.debug, s!"check_field_access: {subject.text}.{field}"⟩]

end Checker

end Narrowing
