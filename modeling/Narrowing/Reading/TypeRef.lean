import Narrowing.Reading.Basic
import Narrowing.TypeRef

/-!
# Reading type references

A string names a type and an array is a union; nothing else is a type reference, at any depth. The
whole value is taken in before any of this is asked.
-/

namespace Narrowing

namespace TypeRef

mutual

/-- The type reference that a value writes. -/
def ofValue : Json.Value → Except ReadError TypeRef
  | .string name => .ok (.named name)
  | .array elements => do return .union (← ofValues elements)
  | .null | .bool _ | .number _ | .object _ => .error .noTypeReference

/-- The type references that values write. -/
def ofValues : List Json.Value → Except ReadError (List TypeRef)
  | [] => .ok []
  | element :: rest => do return (← ofValue element) :: (← ofValues rest)

end

/-- Reads a type reference. -/
def reader : Reader TypeRef := fun depth node => do
  ofValue (← Reader.lift (node.take depth))

end TypeRef

end Narrowing
