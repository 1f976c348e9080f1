import Narrowing.Ty.Equality

/-!
# Values and their tags

Nothing is evaluated here. A value is known only by the tag that says which type it carries at run
time, and tags are always compared by name.
-/

namespace Narrowing

/-- A value, reduced to the type that it carries at run time. -/
structure TaggedValue where
  /-- The type that the value carries. -/
  tag : Ty
  deriving Repr, Inhabited

namespace TaggedValue

/-- The run-time type test: whether the tag has the target's name. -/
def is (value : TaggedValue) (target : Ty) : Bool := value.tag.eqName target

/-- Whether the value may be stored in a slot of the declared type. -/
def inhabits (value : TaggedValue) : Ty → Bool
  | .union members => members.any fun member => member.eqName value.tag
  | .nominal name => (Ty.nominal name).eqName value.tag

end TaggedValue

end Narrowing
