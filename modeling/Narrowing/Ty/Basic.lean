/-!
# Types

A type is nominal, known by its name alone, or a union of member types. Unions nest, and their
members keep the order and the repetitions they were written with. The text of a type leaves the
outermost union bare and puts every union inside another one in parentheses.
-/

namespace Narrowing

/-- A static type: a name, or a union of the listed members. -/
inductive Ty where
  /-- A primitive or object type, identified by its name. -/
  | nominal (name : String)
  /-- Exactly one of the members, in the order in which they were written. -/
  | union (members : List Ty)
  deriving Repr, Inhabited

namespace Ty

/-- The one name that all unions share. -/
def unionName : String := "union"

/-- The nominal identity of a type. -/
def name : Ty → String
  | .nominal name => name
  | .union _ => unionName

/-- Whether a type is a union. -/
def isUnion : Ty → Bool
  | .nominal _ => false
  | .union _ => true

/-- The member list of a union; nominal types have none. -/
def members? : Ty → Option (List Ty)
  | .nominal _ => none
  | .union members => some members

mutual

/-- The text of a type, such as `int | (a | b) | Point`. -/
def text : Ty → String
  | .nominal name => name
  | .union members => " | ".intercalate (memberTexts members)

/-- The text of each member of a union, with parentheses around the unions among them. -/
def memberTexts : List Ty → List String
  | [] => []
  | member :: rest =>
    (if member.isUnion then "(" ++ member.text ++ ")" else member.text) :: memberTexts rest

end

@[simp] theorem name_nominal (n : String) : (nominal n).name = n := rfl

@[simp] theorem name_union (members : List Ty) : (union members).name = unionName := rfl

@[simp] theorem isUnion_nominal (n : String) : (nominal n).isUnion = false := rfl

@[simp] theorem isUnion_union (members : List Ty) : (union members).isUnion = true := rfl

end Ty

end Narrowing
