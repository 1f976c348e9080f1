/-!
# Schemas

A schema says which fields the nominal types have. The rules ask nothing else of it, so a schema is
a test on a type name and a field name.
-/

namespace Narrowing

/-- The fields that nominal types expose. -/
structure Schema where
  /-- Whether the named type has the field. -/
  hasField : String → String → Bool

namespace Schema

/-- The schema in force when none is given: `Point` has the fields `x` and `y`, and no other type
has any. -/
def builtin : Schema where
  hasField typeName field := typeName == "Point" && (field == "x" || field == "y")

/-- The schema that holds exactly the listed pairs of a type name and a field. -/
def ofPairs (pairs : List (String × String)) : Schema where
  hasField typeName field := pairs.contains (typeName, field)

end Schema

instance : Inhabited Schema := ⟨Schema.builtin⟩

end Narrowing
