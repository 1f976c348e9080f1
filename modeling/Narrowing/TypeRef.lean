import Narrowing.Failure
import Narrowing.Ty.Basic

/-!
# Type references

A type as a script writes it. Unlike a type, a reference may hold unions without members; it
stands for a type only if it holds none. The text of a reference puts every union in parentheses,
the outermost included.
-/

namespace Narrowing

/-- A written type: a name, or a union of written types. -/
inductive TypeRef where
  /-- A nominal type, by its name. -/
  | named (name : String)
  /-- A union of the listed references. -/
  | union (members : List TypeRef)
  deriving Repr, Inhabited

/-- The union of the members, which must be at least one. -/
def Ty.union? (members : List Ty) : Except Failure Ty :=
  if members.isEmpty then .error .emptyUnion else .ok (.union members)

namespace TypeRef

mutual

/-- The text of a reference, such as `(int | (a | b))`. -/
def text : TypeRef → String
  | .named name => name
  | .union members => "(" ++ " | ".intercalate (memberTexts members) ++ ")"

/-- The text of each listed reference. -/
def memberTexts : List TypeRef → List String
  | [] => []
  | member :: rest => member.text :: memberTexts rest

end

mutual

/-- The type that a reference stands for. Members are resolved before the union they form, from
left to right. -/
def resolve : TypeRef → Except Failure Ty
  | .named name => .ok (.nominal name)
  | .union members => do Ty.union? (← resolveAll members)

/-- The types that the listed references stand for, or the first failure among them. -/
def resolveAll : List TypeRef → Except Failure (List Ty)
  | [] => .ok []
  | member :: rest => do return (← member.resolve) :: (← resolveAll rest)

end

end TypeRef

end Narrowing
