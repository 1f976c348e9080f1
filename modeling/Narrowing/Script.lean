import Narrowing.Schema.FieldTable
import Narrowing.Ty.Equality
import Narrowing.TypeRef

/-!
# Check scripts

A script stands in for a program: it declares symbols and lists the checks that a walk over the
program would make. A type test may guard further checks, which are made where the test has
succeeded.
-/

namespace Narrowing

/-- What a test or an access is about: a symbol or an expression of a written type. It has to be
exactly one of the two, which only the check itself finds out. -/
structure Subject where
  /-- The symbol, if one is named. -/
  symbol? : Option String := none
  /-- The type of the expression, if one is written. -/
  type? : Option TypeRef := none
  deriving Repr, Inhabited

/-- The text of a subject; a symbol goes before a type. -/
def Subject.text (subject : Subject) : String :=
  match subject.symbol?, subject.type? with
  | some name, _ => name
  | none, some type => type.text
  | none, none => "?"

/-- A single check of a script. -/
inductive Check where
  /-- A value of the given type is assigned to the symbol. -/
  | assign (symbol : String) (value : TypeRef)
  /-- The subject is tested for the target; the guarded checks are made where it has that type. -/
  | test (subject : Subject) (target : TypeRef) (guarded : List Check)
  /-- The field is read from the subject. -/
  | access (subject : Subject) (field : String)
  deriving Repr, Inhabited

/-- The text of a check, without the checks that it guards. -/
def Check.text : Check → String
  | .assign symbol value => s!"{symbol} = <{value.text}>"
  | .test subject target _ => s!"{subject.text} is {target.text}"
  | .access subject field => s!"{subject.text}.{field}"

/-- A declaration of a symbol. -/
structure Declaration where
  /-- The name to declare. -/
  name : String
  /-- The written type of the symbol. -/
  type : TypeRef
  deriving Repr, Inhabited

/-- A whole script. -/
structure Script where
  /-- The setting of the rules. -/
  config : Config := {}
  /-- The fields of the nominal types, if the script does not rely on the built-in ones. -/
  fields? : Option FieldTable := none
  /-- The declarations, which are made before all checks. -/
  declarations : List Declaration := []
  /-- The checks, in order. -/
  checks : List Check := []
  deriving Repr, Inhabited

/-- The schema that a script asks for. -/
def Script.schema (script : Script) : Schema :=
  script.fields?.elim .builtin FieldTable.toSchema

end Narrowing
